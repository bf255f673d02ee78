import Custody.Http.Exchange
import Custody.Text.Hex
import Custody.Text.Lossy

/-!
# `Custody.Http.Message`: requests and answers as bytes

A request is written as HTTP/1.1 with the wish to close the connection after the answer, so an
answer is what comes until then: a status line, header lines, an empty line and the body. The
body is as long as its header says, or comes in chunks, or goes on to the end; one that ends
before it should has broken off.
-/

set_option autoImplicit false

namespace Custody.Http

/-- The end of a line. -/
def lineEnd : String := "\r\n"

/-- A header line. -/
def headerLine (name value : String) : String := name ++ ": " ++ value ++ lineEnd

/-- The bytes of a request. -/
def Request.encode (request : Request) : Bytes :=
  let body := request.body.getD ""
  let kind := (request.contentType.map (headerLine "Content-Type")).getD ""
  let length := if request.method = .post then
    headerLine "Content-Length" (toString body.utf8ByteSize) else ""
  Bytes.ofText <|
    request.method.name ++ " " ++ request.url.target ++ " HTTP/1.1" ++ lineEnd
      ++ headerLine "Host" request.url.authority ++ headerLine "Accept" "*/*"
      ++ headerLine "Connection" "close" ++ kind ++ length ++ lineEnd ++ body

/-- The first line and what follows its end. -/
def splitLine? : Bytes → Option (Bytes × Bytes)
  | 13 :: 10 :: rest => some ([], rest)
  | b :: rest => (splitLine? rest).map fun (line, rest) => (b :: line, rest)
  | [] => none

/-- Splitting off a line takes at least its end. -/
theorem length_of_splitLine? {bytes line rest : Bytes}
    (h : splitLine? bytes = some (line, rest)) : rest.length < bytes.length := by
  fun_induction splitLine? bytes generalizing line rest with
  | case1 r => cases h; simp only [List.length_cons]; omega
  | case2 b r _ ih =>
    obtain ⟨⟨l, t⟩, ht, e⟩ := Option.map_eq_some_iff.1 h
    cases e
    have := ih ht
    simp only [List.length_cons]
    omega
  | case3 => cases h

/-- A header: its name in lower case and its value without the blanks around it. -/
def header (line : String) : String × String :=
  let cs := line.toList
  let name := cs.takeWhile (· ≠ ':')
  (String.ofList (name.map Char.toLower),
    ((String.ofList (cs.drop (name.length + 1))).trimAscii).toString)

/-- The headers up to the empty line, and the body. -/
def headers? (bytes : Bytes) : Option (List (String × String) × Bytes) :=
  match _h : splitLine? bytes with
  | none => none
  | some ([], body) => some ([], body)
  | some (line, rest) =>
    (headers? rest).map fun (headers, body) => (header (Text.lossy line) :: headers, body)
termination_by bytes.length
decreasing_by exact length_of_splitLine? _h

/-- The status in a status line. -/
def status? (line : String) : Option Nat :=
  match line.splitOn " " with
  | version :: code :: _ => if version.startsWith "HTTP/1." then code.toNat? else none
  | _ => none

/-- A length in hexadecimal digits, as far as they go. -/
def chunkLength? (line : Bytes) : Option Nat :=
  let digits := line.takeWhile fun b => (Text.Hex.value? b).isSome
  if digits = [] then none
  else some <| (digits.filterMap Text.Hex.value?).foldl (fun n d => 16 * n + d.toNat) 0

/-- The body that comes in chunks, up to the empty chunk. -/
def chunked? (bytes : Bytes) : Option Bytes :=
  match _h : splitLine? bytes with
  | none => none
  | some (line, rest) =>
    match chunkLength? line with
    | none => none
    | some 0 => some []
    | some n =>
      if rest.length < n + 2 then none
      else (chunked? (rest.drop (n + 2))).map (rest.take n ++ ·)
termination_by bytes.length
decreasing_by
  have := length_of_splitLine? _h
  simp only [List.length_drop]
  omega

/-- The body, if it has not broken off. -/
def body? (headers : List (String × String)) (bytes : Bytes) : Option Bytes :=
  if headers.lookup "transfer-encoding" = some "chunked" then chunked? bytes
  else match headers.lookup "content-length" |>.bind String.toNat? with
    | none => some bytes
    | some n => if bytes.length < n then none else some (bytes.take n)

/-- The answer that the bytes of a connection spell. -/
def Response.decode? (bytes : Bytes) : Option Response := do
  let (line, rest) ← splitLine? bytes
  let status ← status? (Text.lossy line)
  let (headers, rest) ← headers? rest
  return ⟨status, headers.lookup "location", (body? headers rest).map Text.lossy⟩

end Custody.Http
