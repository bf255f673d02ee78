import Custody.Http.Url

/-!
# `Custody.Http.Exchange`: requests, answers and redirects

A network takes a request and gives an answer, or none if the connection fails or breaks off
before there is one; it does so in a monad of its own. `send` follows redirects as browsers do:
after 301, 302 and 303 the next request is a plain `GET`, after 307 and 308 it is the same
request at the new place, body included. At most ten redirects are followed. An answer that
redirects to nowhere is an answer like any other.
-/

set_option autoImplicit false

namespace Custody.Http

/-- What a request asks for. -/
inductive Method where
  | get
  | post
  deriving DecidableEq, Repr

/-- The name that a request begins with. -/
def Method.name : Method → String
  | .get => "GET"
  | .post => "POST"

/-- A request. A body is always JSON. -/
structure Request where
  method : Method
  url : Url
  body : Option String
  deriving DecidableEq, Repr

/-- The kind of the body. -/
def Request.contentType (request : Request) : Option String :=
  request.body.map fun _ => "application/json"

/-- An answer. A body that breaks off is none. -/
structure Response where
  status : Nat
  location : Option String
  body : Option String
  deriving DecidableEq, Repr

/-- Whether the answer is a success. -/
def Response.isSuccess (response : Response) : Bool :=
  200 ≤ response.status && response.status < 300

/-- What answers requests. -/
abbrev Network (m : Type → Type) := Request → m (Option Response)

/-- A network that nothing can be reached over. -/
def Network.unreachable (m : Type → Type) [Monad m] : Network m := fun _ => return none

/-- Why a request was not answered. -/
inductive Failure where
  | badUrl (fault : Url.Fault)
  /-- The address is one that cannot be asked. -/
  | unspoken (url : Url)
  | unanswered (url : Url)
  | tooManyRedirects (url : Url)
  deriving DecidableEq, Repr

/-- What is told of it. -/
def Failure.message : Failure → String
  | .badUrl _ => "builder error"
  | .unspoken url => "builder error for url (" ++ url.render ++ ")"
  | .unanswered url => "error sending request for url (" ++ url.render ++ ")"
  | .tooManyRedirects url => "error following redirect for url (" ++ url.render ++ ")"

/-- The request that follows a redirect to an address. -/
def Request.redirected (request : Request) (status : Nat) (url : Url) : Request :=
  if status = 307 ∨ status = 308 then { request with url } else ⟨.get, url, none⟩

/-- Where an answer redirects to, if it does. -/
def Request.redirect? (request : Request) (response : Response) : Option Url :=
  if response.status ∈ [301, 302, 303, 307, 308] then
    response.location.bind fun reference => (request.url.join reference).toOption
  else none

/-- How many redirects are followed. -/
def maxRedirects : Nat := 10

/-- The answer to a request after at most `left` redirects. -/
def follow {m : Type → Type} [Monad m] (network : Network m) :
    (left : Nat) → Request → m (Except Failure Response)
  | left, request => do
    match ← network request with
    | none => return .error (.unanswered request.url)
    | some response =>
      match request.redirect? response with
      | none => return .ok response
      | some url =>
        if url.canBeAsked then
          match left with
          | 0 => return .error (.tooManyRedirects request.url)
          | left + 1 => follow network left (request.redirected response.status url)
        else return .error (.unanswered request.url)

/-- The answer to a request. The user in its address is not part of what is asked. -/
def send {m : Type → Type} [Monad m] (network : Network m) (request : Request) :
    m (Except Failure Response) :=
  let url := request.url.withoutUser
  if url.canBeAsked then follow network maxRedirects { request with url }
  else return .error (.unspoken url)

end Custody.Http
