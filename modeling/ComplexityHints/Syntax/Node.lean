import ComplexityHints.Text.Utf8

namespace ComplexityHints.Syntax

/-- A syntax node. `field` is the role it plays in its parent. -/
inductive Node where
  | mk (kind : String) (start stop : Nat) (field : Option String) (named : Bool)
      (children : List Node)
deriving Repr, Inhabited

namespace Node

def kind : Node → String
  | mk kind _ _ _ _ _ => kind

def start : Node → Nat
  | mk _ start _ _ _ _ => start

def stop : Node → Nat
  | mk _ _ stop _ _ _ => stop

def field : Node → Option String
  | mk _ _ _ field _ _ => field

def named : Node → Bool
  | mk _ _ _ _ named _ => named

def children : Node → List Node
  | mk _ _ _ _ _ children => children

/-- The children that walks follow. -/
def namedChildren (n : Node) : List Node := n.children.filter (·.named)

mutual

def size : Node → Nat
  | mk _ _ _ _ _ children => 1 + sizeAll children

def sizeAll : List Node → Nat
  | [] => 0
  | n :: ns => size n + sizeAll ns

end

def withField (field : String) : Node → Node
  | mk kind start stop _ named children => mk kind start stop (some field) named children

def childInField? (n : Node) (field : String) : Option Node :=
  n.children.find? (·.field = some field)

/-- The source text of a node; malformed bytes show as U+FFFD. -/
def text (source : Utf8.Bytes) (n : Node) : String :=
  String.ofList (Utf8.decodeReplacing (Utf8.slice source n.start n.stop))

end Node

end ComplexityHints.Syntax
