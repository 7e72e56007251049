import LogFilter.Json
import LogFilter.Request
import LogFilter.Text.Basic

/-!
# Requests and responses

The parts of HTTP messages that the service looks at and answers with. The target of a request gives a
path and perhaps a query. It is written from the path on, or as an absolute address, in which a scheme and
an authority stand before the path; a fragment at the end is dropped. In the query, `name=value` pieces
have `&` between them, a plus sign is a space and `%XX` is a byte.
-/

namespace LogFilter.Http

/-! ### Targets -/

/-- A path and a query, both as they are written. -/
structure Target where
  path : List Char := []
  query : List Char := []
  deriving DecidableEq, Repr

namespace Target

/-- Cuts a text that starts with the path at its question mark, without its fragment. -/
def fromPath (cs : List Char) : Target :=
  let (path, query) := Text.cutAt '?' (Text.cutAt '#' cs).1
  ⟨path, query.getD []⟩

/-- What follows the scheme of an absolute address. -/
def afterScheme? (cs : List Char) : Option (List Char) :=
  (Text.cutAt ':' cs).2.bind (Text.after? "//".toList)

/-- The authority of an absolute address ends before this character. -/
def endsAuthority (c : Char) : Bool := c = '/' || c = '?' || c = '#'

/-- Reads what follows the scheme of an absolute address. An empty path is the root. -/
def fromAuthority (cs : List Char) : Target :=
  let target := fromPath (cs.dropWhile (!endsAuthority ·))
  if target.path.isEmpty then { target with path := ['/'] } else target

/-- Reads a target. A single asterisk is a path, and an authority alone has none. -/
def parse (text : String) : Target :=
  match text.toList with
  | ['*'] => { path := ['*'] }
  | '/' :: cs => fromPath ('/' :: cs)
  | cs =>
    match afterScheme? cs with
    | some rest => fromAuthority rest
    | none => {}

end Target

/-! ### Form encoding -/

/-- The value of a byte that is a hexadecimal digit. -/
def hexByte? (b : UInt8) : Option UInt8 :=
  if 0x30 ≤ b && b ≤ 0x39 then some (b - 0x30)
  else if 0x41 ≤ b && b ≤ 0x46 then some (b - 0x37)
  else if 0x61 ≤ b && b ≤ 0x66 then some (b - 0x57)
  else none

/-- The bytes with every plus sign replaced by a space. -/
def plusToSpace (bytes : List UInt8) : List UInt8 :=
  bytes.map fun b => if b = 0x2B then 0x20 else b

/-- The bytes with every `%XX` replaced by the byte it stands for; any other percent sign stays. -/
def percentDecode : List UInt8 → List UInt8
  | [] => []
  | [b] => [b]
  | [b, c] => [b, c]
  | b :: high :: low :: rest =>
    if b = 0x25 then
      match hexByte? high, hexByte? low with
      | some h, some l => (h * 16 + l) :: percentDecode rest
      | _, _ => b :: percentDecode (high :: low :: rest)
    else b :: percentDecode (high :: low :: rest)

/-- The text that a name or a value stands for. -/
def decodeComponent (cs : List Char) : String :=
  Text.decodeUtf8 (percentDecode (plusToSpace (Text.utf8 cs)))

/-- The name and the value of a piece; without an equals sign the value is empty. -/
def decodePiece (cs : List Char) : String × String :=
  let (name, value) := Text.cutAt '=' cs
  (decodeComponent name, decodeComponent (value.getD []))

/-- The parameters of a query; empty pieces are passed over. -/
def decodeQuery (cs : List Char) : Parameters :=
  ⟨((Text.splitAt '&' cs).filter (!·.isEmpty)).map decodePiece⟩

/-! ### Messages -/

/-- A request. -/
structure Request where
  method : String := "GET"
  target : String
  contentType : Option String := none
  body : String := ""
  deriving DecidableEq, Repr

namespace Request

/-- The path, as it is written. -/
def path (request : Request) : String := String.ofList (Target.parse request.target).path

/-- The decoded parameters of the query. -/
def parameters (request : Request) : Parameters := decodeQuery (Target.parse request.target).query

end Request

/-- A response; a body is always JSON. -/
structure Response where
  status : Nat
  body : Option Json

namespace Response

/-- A successful response. -/
def ok (body : Json) : Response := ⟨200, some body⟩

/-- A response without body. -/
def bare (status : Nat) : Response := ⟨status, none⟩

/-- A response that reports an error. -/
def report (status : Nat) (error code message : String) : Response :=
  ⟨status, some (.object
    [("error", .string error), ("code", .string code), ("message", .string message)])⟩

/-- The response without its body. -/
def headless (response : Response) : Response := { response with body := none }

end Response

end LogFilter.Http
