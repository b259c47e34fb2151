import ComplexityHints.Document
import ComplexityHints.Files.Tree
import ComplexityHints.Problem

namespace ComplexityHints

inductive Encoding where
  | utf8
  | utf8Signed
  | ascii
  | latin1
  | utf16
  | utf16le
  | utf16be
deriving DecidableEq, Repr

namespace Encoding

/-- Encodings go by several names; case, blanks, dots, dashes and underscores do not matter. -/
def ofName? (s : String) : Option Encoding :=
  let key := String.ofList
    ((s.toList.map Char.toLower).filter fun c => c ≠ '-' ∧ c ≠ '_' ∧ c ≠ ' ' ∧ c ≠ '.')
  if ["utf8", "u8", "utf", "cp65001"].contains key then some utf8
  else if key = "utf8sig" then some utf8Signed
  else if ["ascii", "usascii", "646", "ansix341968", "iso646us", "us"].contains key then some ascii
  else if ["latin1", "latin", "iso88591", "l1", "8859", "cp819", "iso8859"].contains key then
    some latin1
  else if ["utf16", "u16"].contains key then some utf16
  else if ["utf16le", "unicodelittleunmarked"].contains key then some utf16le
  else if ["utf16be", "unicodebigunmarked"].contains key then some utf16be
  else none

end Encoding

inductive OnMalformed where
  | strict
  | replace
  | ignore
deriving DecidableEq, Repr

def OnMalformed.ofName? (s : String) : Option OnMalformed :=
  if s = "strict" then some .strict
  else if s = "replace" then some .replace
  else if s = "ignore" then some .ignore
  else none

namespace Decoding

abbrev Piece := Except String Char

def asciiPieces (from_ : Nat) : Utf8.Bytes → List Piece
  | [] => []
  | b :: rest =>
    (if b.toNat < 128 then .ok (Char.ofNat b.toNat)
      else
        let byte := String.ofList (Quoted.hex 2 b.toNat)
        .error (s!"'ascii' codec can't decode byte 0x{byte} in position {from_}: " ++
          "ordinal not in range(128)")) ::
      asciiPieces (from_ + 1) rest

def utf8Pieces (bytes : Utf8.Bytes) : List Piece :=
  (Utf8.steps 0 0 bytes).map fun (offset, step) =>
    match step.outcome with
    | .ok c => .ok c
    | .error flaw =>
      .error (Utf8.Malformed.message ⟨flaw, bytes.getD offset 0, offset, step.size⟩)

/-- UTF-16 units; the flag tells that the low byte comes first. -/
def units (little : Bool) : Utf8.Bytes → List Nat
  | a :: b :: rest =>
    (if little then a.toNat + 256 * b.toNat else 256 * a.toNat + b.toNat) :: units little rest
  | _ => []

def unitComplaint (name : String) (from_ : Nat) (reason : String) : Piece :=
  .error s!"'{name}' codec can't decode bytes in position {from_}-{from_ + 1}: {reason}"

def unitPieces (name : String) (from_ : Nat) : List Nat → List Piece
  | [] => []
  | [u] =>
    if 0xD800 ≤ u ∧ u < 0xE000 then
      [unitComplaint name from_ "unexpected end of data"]
    else [.ok (Char.ofNat u)]
  | u :: v :: rest =>
    if 0xD800 ≤ u ∧ u < 0xDC00 ∧ 0xDC00 ≤ v ∧ v < 0xE000 then
      .ok (Char.ofNat (0x10000 + (u - 0xD800) * 1024 + (v - 0xDC00))) ::
        unitPieces name (from_ + 4) rest
    else if 0xD800 ≤ u ∧ u < 0xE000 then
      unitComplaint name from_ "illegal UTF-16 surrogate" ::
        unitPieces name (from_ + 2) (v :: rest)
    else .ok (Char.ofNat u) :: unitPieces name (from_ + 2) (v :: rest)

def utf16Pieces (name : String) (little : Bool) (from_ : Nat) (bytes : Utf8.Bytes) : List Piece :=
  let whole := unitPieces name from_ (units little bytes)
  if bytes.length % 2 = 0 then whole
  else
    let last := from_ + bytes.length - 1
    let byte := String.ofList (Quoted.hex 2 (bytes.getLast?.getD 0).toNat)
    whole ++
      [.error s!"'{name}' codec can't decode byte 0x{byte} in position {last}: truncated data"]

def pieces (e : Encoding) (bytes : Utf8.Bytes) : List Piece :=
  match e with
  | .utf8 => utf8Pieces bytes
  | .utf8Signed => utf8Pieces (if [0xEF, 0xBB, 0xBF].isPrefixOf bytes then bytes.drop 3 else bytes)
  | .ascii => asciiPieces 0 bytes
  | .latin1 => bytes.map fun b => .ok (Char.ofNat b.toNat)
  | .utf16le => utf16Pieces "utf-16-le" true 0 bytes
  | .utf16be => utf16Pieces "utf-16-be" false 0 bytes
  | .utf16 =>
    match bytes with
    | 0xFF :: 0xFE :: rest => utf16Pieces "utf-16" true 2 rest
    | 0xFE :: 0xFF :: rest => utf16Pieces "utf-16" false 2 rest
    | _ => utf16Pieces "utf-16" true 0 bytes

def decode (e : Encoding) (mode : OnMalformed) (bytes : Utf8.Bytes) : Except String (List Char) :=
  match mode with
  | .strict => (pieces e bytes).mapM id
  | .replace => .ok ((pieces e bytes).map fun
      | .ok c => c
      | .error _ => '\uFFFD')
  | .ignore => .ok ((pieces e bytes).filterMap (·.toOption))

end Decoding

def readText (t : FileTree) (p : Path) (encoding : String) (mode : OnMalformed) :
    Except Failure Text :=
  match Encoding.ofName? encoding with
  | none => .error (.unknownEncoding encoding)
  | some e =>
    match t.read p with
    | .error why =>
      .error (.problem (.fileAccess p.text s!"OS error: {why.message}: {quoted p.text}"))
    | .ok bytes =>
      match Decoding.decode e mode bytes with
      | .error complaint => .error (.problem (.fileAccess p.text ("Encoding error: " ++ complaint)))
      | .ok cs => .ok (Text.normalizeBreaks (Text.ofChars cs))

/-- Loads a document. Without a language identifier it goes by the extension. -/
def loadDocument (t : FileTree) (p : Path) (languageId : Option String) :
    Except Failure Document := do
  let id ← match languageId with
    | some id => pure id
    | none =>
      match p.language? with
      | some language => pure language.id
      | none =>
        let shown := if p.suffix = "" then p.text else p.suffix
        throw (.problem (.unsupportedLanguage shown (Language.all.map Language.id)))
  let text ← readText t p "utf-8" .replace
  return { uri := t.uri p, languageId := id, text }

end ComplexityHints
