import Custody.Http.LedgerProxy

/-!
# `Custody.Proofs.Http.Redirect`: what a redirect makes of a submission

A submission is handed in with one `POST`, and nobody here tries again. But `send` follows
redirects, so the server decides how many requests there are and whose answer is told in the end.

A `Server` may answer as it likes, and go by all that it was asked before. What follows a request
to it is a `Trail`, one constructor for each way in which a request can end. Following redirects
leaves one (`follow_trail`), and the rest is said of trails: how long they are, which requests
carry the submission, and whose answer is the last.

An answer is the ledger's own if it is `Faithful`. It is where the server does not redirect the
`POST`, and `HandedIn` is what can be said otherwise (`handIn_follows_redirects`). A redirect
breaks it in two ways (`submission_redirected`): the submission may be handed in twice, and a page
that never saw it may be told as the ledger's answer.
-/

set_option autoImplicit false

namespace Custody.Http

/-! ### Servers -/

/-- A server says what it answers to a request after those that came before. Where it says
nothing, the connection has failed. -/
structure Server where
  answer : (past : List Request) → Request → Option Response

/-- The network that leads to a server. It notes what is asked. -/
def Server.network (server : Server) : Network (StateM (List Request)) := fun request => do
  let past ← get
  set (past ++ [request])
  return server.answer past request

/-- What follows a request: the requests that are made, itself included, and what comes of them.
At most `left` redirects are followed, and `past` was asked before. -/
inductive Trail (server : Server) :
    (left : Nat) → (past : List Request) → Request → List Request → Except Failure Response → Prop
  | silent {left : Nat} {past : List Request} {request : Request}
      (hanswer : server.answer past request = none) :
      Trail server left past request [request] (.error (.unanswered request.url))
  | answered {left : Nat} {past : List Request} {request : Request} {response : Response}
      (hanswer : server.answer past request = some response)
      (hredirect : request.redirect? response = none) :
      Trail server left past request [request] (.ok response)
  | astray {left : Nat} {past : List Request} {request : Request} {response : Response} {url : Url}
      (hanswer : server.answer past request = some response)
      (hredirect : request.redirect? response = some url) (hasked : url.canBeAsked = false) :
      Trail server left past request [request] (.error (.unanswered request.url))
  | spent {past : List Request} {request : Request} {response : Response} {url : Url}
      (hanswer : server.answer past request = some response)
      (hredirect : request.redirect? response = some url) (hasked : url.canBeAsked = true) :
      Trail server 0 past request [request] (.error (.tooManyRedirects request.url))
  | redirected {left : Nat} {past asked : List Request} {request : Request} {response : Response}
      {url : Url} {result : Except Failure Response}
      (hanswer : server.answer past request = some response)
      (hredirect : request.redirect? response = some url) (hasked : url.canBeAsked = true)
      (rest : Trail server left (past ++ [request]) (request.redirected response.status url) asked
        result) :
      Trail server (left + 1) past request (request :: asked) result

/-- One request, and what is done about its answer. -/
theorem follow_run (server : Server) (left : Nat) (past : List Request) (request : Request) :
    (follow server.network left request).run past =
      match server.answer past request with
      | none => (.error (.unanswered request.url), past ++ [request])
      | some response =>
        match request.redirect? response with
        | none => (.ok response, past ++ [request])
        | some url =>
          if url.canBeAsked then
            match left with
            | 0 => (.error (.tooManyRedirects request.url), past ++ [request])
            | left + 1 => (follow server.network left
                (request.redirected response.status url)).run (past ++ [request])
          else (.error (.unanswered request.url), past ++ [request]) := by
  have hstep {α : Type} (next : Option Response → StateM (List Request) α) :
      (server.network request >>= next).run past
        = (next (server.answer past request)).run (past ++ [request]) := rfl
  rw [follow, hstep]
  cases server.answer past request with
  | none => rfl
  | some response =>
      simp only
      cases request.redirect? response with
      | none => rfl
      | some url =>
          simp only
          split
          · cases left <;> rfl
          · rfl

/-- Following redirects leaves a trail. -/
theorem follow_trail (server : Server) (left : Nat) (past : List Request) (request : Request) :
    ∃ asked result, (follow server.network left request).run past = (result, past ++ asked)
      ∧ Trail server left past request asked result := by
  rw [follow_run]
  cases hanswer : server.answer past request with
  | none => exact ⟨_, _, rfl, .silent hanswer⟩
  | some response =>
      simp only
      cases hredirect : request.redirect? response with
      | none => exact ⟨_, _, rfl, .answered hanswer hredirect⟩
      | some url =>
          simp only
          cases hasked : url.canBeAsked with
          | false => exact ⟨_, _, rfl, .astray hanswer hredirect hasked⟩
          | true =>
              cases left with
              | zero => exact ⟨_, _, rfl, .spent hanswer hredirect hasked⟩
              | succ left =>
                  obtain ⟨asked, result, hrun, htrail⟩ := follow_trail server left
                    (past ++ [request]) (request.redirected response.status url)
                  refine ⟨request :: asked, result, ?_, .redirected hanswer hredirect hasked htrail⟩
                  simpa using hrun
  termination_by left

/-! ### Requests that carry a submission -/

namespace Request

/-- The request hands in a text. -/
def Carries (request : Request) (text : String) : Prop :=
  request.method = .post ∧ request.body = some text

/-- Whether a request carries a text can be decided. -/
instance (request : Request) (text : String) : Decidable (request.Carries text) :=
  inferInstanceAs (Decidable (_ ∧ _))

/-- The request asks for a page and hands in nothing. -/
def IsPlain (request : Request) : Prop := request.method = .get ∧ request.body = none

variable {request : Request} {text : String} {status : Nat}

/-- Two of the redirects hand in again. -/
theorem carries_redirected (h : request.Carries text) (hstatus : status = 307 ∨ status = 308)
    (url : Url) : (request.redirected status url).Carries text := by
  unfold redirected
  rw [if_pos hstatus]
  exact h

/-- The other ones drop what was handed in. -/
theorem isPlain_redirected (hstatus : ¬ (status = 307 ∨ status = 308)) (url : Url) :
    (request.redirected status url).IsPlain := by
  unfold redirected
  rw [if_neg hstatus]
  exact ⟨rfl, rfl⟩

/-- A request that hands in nothing does not hand in anything elsewhere. -/
theorem IsPlain.redirected (h : request.IsPlain) (status : Nat) (url : Url) :
    (request.redirected status url).IsPlain := by
  by_cases hstatus : status = 307 ∨ status = 308
  · unfold Request.redirected
    rw [if_pos hstatus]
    exact h
  · exact isPlain_redirected hstatus url

end Request

/-! ### What a trail is like -/

namespace Trail

variable {server : Server} {left : Nat} {past asked : List Request} {request : Request}
  {result : Except Failure Response} {text : String}

/-- Besides the first request, no more are sent than redirects are left. -/
theorem length_le (h : Trail server left past request asked result) :
    asked.length ≤ left + 1 := by
  induction h with
  | silent | answered | astray | spent => simp
  | redirected hanswer hredirect hasked rest ih =>
      rw [List.length_cons]
      omega

/-- The first request is the one that was given. -/
theorem eq_cons (h : Trail server left past request asked result) :
    ∃ rest, asked = request :: rest := by
  cases h with
  | silent | answered | astray | spent => exact ⟨[], rfl⟩
  | redirected => exact ⟨_, rfl⟩

/-- After a plain request there are only such. -/
theorem plain (h : Trail server left past request asked result) (hplain : request.IsPlain) :
    ∀ r ∈ asked, r.IsPlain := by
  induction h with
  | silent | answered | astray | spent => simpa using hplain
  | redirected hanswer hredirect hasked rest ih =>
      exact List.forall_mem_cons.mpr ⟨hplain, ih (hplain.redirected _ _)⟩

/-- A text is handed in some times in a row, and never after that. -/
theorem split (h : Trail server left past request asked result) (hcarries : request.Carries text) :
    ∃ carrying plain, asked = carrying ++ plain ∧ (∀ r ∈ carrying, r.Carries text)
      ∧ ∀ r ∈ plain, r.IsPlain := by
  induction h with
  | silent | answered | astray | spent => exact ⟨[_], [], rfl, by simpa using hcarries, by simp⟩
  | @redirected left past asked request response url result hanswer hredirect hasked rest ih =>
      by_cases hstatus : response.status = 307 ∨ response.status = 308
      · obtain ⟨carrying, plain, rfl, hcarrying, hplain⟩ :=
          ih (Request.carries_redirected hcarries hstatus url)
        exact ⟨request :: carrying, plain, rfl, List.forall_mem_cons.mpr ⟨hcarries, hcarrying⟩,
          hplain⟩
      · exact ⟨[request], asked, rfl, by simpa using hcarries,
          rest.plain (Request.isPlain_redirected hstatus url)⟩

/-- The answer in the end is the one to the last request. -/
theorem last {response : Response} (h : Trail server left past request asked (.ok response)) :
    ∃ before last, asked = before ++ [last]
      ∧ server.answer (past ++ before) last = some response := by
  generalize hresult : Except.ok response = result at h
  induction h with
  | silent | astray | spent => cases hresult
  | answered hanswer hredirect =>
      cases hresult
      exact ⟨[], _, rfl, by simpa using hanswer⟩
  | @redirected left past asked request response url result hanswer hredirect hasked rest ih =>
      obtain ⟨before, last, rfl, hlast⟩ := ih hresult
      exact ⟨request :: before, last, rfl, by simpa using hlast⟩

/-- A redirect that can be followed is followed, while there are some left. -/
theorem next {rest : List Request} {response : Response} {url : Url}
    (h : Trail server (left + 1) past request (request :: rest) result)
    (hanswer : server.answer past request = some response)
    (hredirect : request.redirect? response = some url) (hasked : url.canBeAsked = true) :
    Trail server left (past ++ [request]) (request.redirected response.status url) rest result := by
  cases h with
  | silent hanswer' => simp [hanswer] at hanswer'
  | answered hanswer' hredirect' =>
      rw [hanswer] at hanswer'
      cases hanswer'
      simp [hredirect] at hredirect'
  | astray hanswer' hredirect' hasked' =>
      rw [hanswer] at hanswer'
      cases hanswer'
      rw [hredirect] at hredirect'
      cases hredirect'
      simp [hasked] at hasked'
  | redirected hanswer' hredirect' _ hrest =>
      rw [hanswer] at hanswer'
      cases hanswer'
      rw [hredirect] at hredirect'
      cases hredirect'
      exact hrest

/-- Where the answer to the first request does not redirect, it is the only one. -/
theorem of_no_redirect (h : Trail server left past request asked result)
    (hdirect : ∀ response, server.answer past request = some response →
      request.redirect? response = none) :
    asked = [request] ∧ result = match server.answer past request with
      | none => .error (.unanswered request.url)
      | some response => .ok response := by
  cases h with
  | silent hanswer => simp [hanswer]
  | answered hanswer hredirect => simp [hanswer]
  | astray hanswer hredirect _ => simp [hdirect _ hanswer] at hredirect
  | spent hanswer hredirect _ => simp [hdirect _ hanswer] at hredirect
  | redirected hanswer hredirect _ _ => simp [hdirect _ hanswer] at hredirect

end Trail

/-! ### Handing in a submission -/

namespace LedgerProxy

variable (proxy : LedgerProxy) (server : Server) (submission : Submission)

/-- What a submission to a server comes to, and the requests that are made for it. -/
def handIn : Except Ledger.Error String × List Request :=
  (proxy.submit server.network submission).run []

/-- The request that hands in a text, if the proxy's address is one that can be asked. -/
def post? (text : String) : Except Failure Request :=
  match Url.parse (proxy.base ++ "/transactions") with
  | .error fault => .error (.badUrl fault)
  | .ok url =>
    if url.withoutUser.canBeAsked then .ok ⟨.post, url.withoutUser, some text⟩
    else .error (.unspoken url.withoutUser)

/-- What is told of the end of a trail. -/
def told : Except Failure Response → Except Ledger.Error String
  | .error failure => .error (.unreachable failure.message)
  | .ok response => readVerdict response

/-- To hand in a submission is to post its text and to follow where the answers point. -/
theorem handIn_eq :
    proxy.handIn server submission =
      match proxy.post? submission.text with
      | .error failure => (told (.error failure), [])
      | .ok post => ((follow server.network maxRedirects post).run []).map told id := by
  unfold handIn submit ask post?
  cases Url.parse (proxy.base ++ "/transactions") with
  | error fault => rfl
  | ok url =>
      simp only
      unfold send
      simp only
      split
      · simp only [StateT.run_bind]
        rcases (follow server.network maxRedirects
          ⟨.post, url.withoutUser, some submission.text⟩).run [] with ⟨result, asked⟩
        cases result <;> rfl
      · rfl

/-- What is posted carries the text. -/
theorem carries_of_post? {text : String} {post : Request} (h : proxy.post? text = .ok post) :
    post.Carries text := by
  unfold post? at h
  split at h
  · cases h
  · split at h
    · cases h
      exact ⟨rfl, rfl⟩
    · cases h

/-- A submission is not sent at all, or leaves a trail from its `POST` on. -/
theorem handIn_cases :
    (∃ failure, proxy.handIn server submission = (told (.error failure), []))
      ∨ ∃ post asked result, post.Carries submission.text
        ∧ Trail server maxRedirects [] post asked result
        ∧ proxy.handIn server submission = (told result, asked) := by
  rw [handIn_eq]
  cases hpost : proxy.post? submission.text with
  | error failure => exact .inl ⟨failure, rfl⟩
  | ok post =>
      obtain ⟨asked, result, hrun, htrail⟩ := follow_trail server maxRedirects [] post
      refine .inr ⟨post, asked, result, proxy.carries_of_post? hpost, htrail, ?_⟩
      simp only [hrun, List.nil_append]
      rfl

end LedgerProxy

/-! ### A proxy on this computer -/

/-- A proxy in front of a ledger on the same machine. -/
def loopback : LedgerProxy := ⟨"http://[::1]:8080"⟩

/-- A place at the proxy. -/
def loopbackUrl (place : String) : Url :=
  ⟨"http", none, some (.eightPieces [0, 0, 0, 0, 0, 0, 0, 1]), some 8080, .rooted [place], none,
    none⟩

/-- There, every text can be posted. -/
theorem post?_loopback (text : String) :
    loopback.post? text = .ok ⟨.post, loopbackUrl "transactions", some text⟩ := by
  have hparse : (Url.parse (loopback.base ++ "/transactions")).toOption
      = some (loopbackUrl "transactions") := by decide +kernel
  unfold LedgerProxy.post?
  cases hurl : Url.parse (loopback.base ++ "/transactions") with
  | error fault =>
      rw [hurl] at hparse
      cases hparse
  | ok url =>
      rw [hurl] at hparse
      cases hparse
      rfl

/-! ### Whose answer is told -/

section
variable {server : Server} {text : String} {answer : Except Ledger.Error String}
  {asked : List Request}

/-- An accepted verdict is the body of a response that tells success. -/
theorem readVerdict_eq_ok {response : Response} {body : String}
    (h : LedgerProxy.readVerdict response = .ok body) :
    response.isSuccess = true ∧ response.body = some body := by
  unfold LedgerProxy.readVerdict at h
  split at h
  · cases h
  · rename_i found hbody
    split at h
    · rename_i hsuccess
      cases h
      exact ⟨hsuccess, hbody⟩
    · cases h

/-- A response that tells no success is a rejection, with its status and its body. -/
theorem readVerdict_of_refused {response : Response} {body : String}
    (hstatus : response.isSuccess = false) (hbody : response.body = some body) :
    LedgerProxy.readVerdict response = .error (.rejected response.status body) := by
  unfold LedgerProxy.readVerdict
  rw [hbody]
  simp only [hstatus]
  rfl

/-- What is told as accepted was accepted by a response. -/
theorem told_eq_ok {result : Except Failure Response} {body : String}
    (h : LedgerProxy.told result = .ok body) :
    ∃ response, result = .ok response ∧ response.isSuccess = true ∧ response.body = some body := by
  cases result with
  | error failure => cases h
  | ok response => exact ⟨response, rfl, readVerdict_eq_ok h⟩

/-- The answer that is told is the ledger's own. The text was handed in once at most; it was
taken only if the answer to the request that handed it in is a success, with this body; and if
that answer is none, this is what is told. -/
structure Faithful (server : Server) (text : String) (answer : Except Ledger.Error String)
    (asked : List Request) : Prop where
  once : (asked.filter fun request => request.Carries text).length ≤ 1
  taken : ∀ body, answer = .ok body → ∃ before post after response,
    asked = before ++ post :: after ∧ post.Carries text
      ∧ server.answer before post = some response
      ∧ response.isSuccess = true ∧ response.body = some body
  refused : ∀ before post after response body, asked = before ++ post :: after →
    post.Carries text → server.answer before post = some response →
    response.isSuccess = false → response.body = some body →
      answer = .error (.rejected response.status body)

/-- Where nothing was sent, a failure is a faithful answer. -/
theorem Faithful.unsent (failure : Failure) :
    Faithful server text (LedgerProxy.told (.error failure)) [] where
  once := Nat.zero_le 1
  taken _ h := nomatch h
  refused before _ _ _ _ h := by cases before <;> cases h

/-- What holds of a text that was handed in, whatever the server redirects. -/
structure HandedIn (server : Server) (text : String) (answer : Except Ledger.Error String)
    (asked : List Request) : Prop where
  length_le : asked.length ≤ maxRedirects + 1
  /-- The requests that hand in the text come first, and the others hand in nothing. -/
  split : ∃ carrying plain, asked = carrying ++ plain
    ∧ (∀ request ∈ carrying, request.Carries text) ∧ ∀ request ∈ plain, request.IsPlain
  unasked : asked = [] → ∃ reason, answer = .error (.unreachable reason)
  /-- An answer that was taken is that to the last request. -/
  taken : ∀ body, answer = .ok body → ∃ before last response, asked = before ++ [last]
    ∧ server.answer before last = some response
    ∧ response.isSuccess = true ∧ response.body = some body
  /-- If the first answer redirects, the text is handed in again or no more. -/
  redirected : ∀ post rest response url, asked = post :: rest →
    server.answer [] post = some response → post.redirect? response = some url →
    url.canBeAsked = true → ∃ next more, rest = next :: more
      ∧ if response.status = 307 ∨ response.status = 308 then next.Carries text
        else ∀ request ∈ rest, request.IsPlain

/-- Where nothing was sent, nothing was handed in, and a failure says so. -/
theorem HandedIn.unsent (failure : Failure) :
    HandedIn server text (LedgerProxy.told (.error failure)) [] where
  length_le := Nat.zero_le _
  split := ⟨[], [], rfl, by simp, by simp⟩
  unasked _ := ⟨failure.message, rfl⟩
  taken _ h := nomatch h
  redirected _ _ _ _ h := nomatch h

/-- A trail that starts with the text hands it in, wherever the server redirects. -/
theorem Trail.handedIn {post : Request} {result : Except Failure Response}
    (h : Trail server maxRedirects [] post asked result) (hcarries : post.Carries text) :
    HandedIn server text (LedgerProxy.told result) asked where
  length_le := h.length_le
  split := h.split hcarries
  unasked hnil := by
    obtain ⟨rest, hcons⟩ := h.eq_cons
    rw [hnil] at hcons
    cases hcons
  taken body hbody := by
    obtain ⟨response, rfl, hsuccess⟩ := told_eq_ok hbody
    obtain ⟨before, last, hasked, hlast⟩ := h.last
    exact ⟨before, last, response, hasked, hlast, hsuccess⟩
  redirected first rest response url hasked hanswer hredirect hcan := by
    obtain ⟨others, hcons⟩ := h.eq_cons
    rw [hcons] at hasked
    cases hasked
    rw [hcons] at h
    have hnext := h.next hanswer hredirect hcan
    obtain ⟨more, hmore⟩ := hnext.eq_cons
    refine ⟨_, more, hmore, ?_⟩
    split
    · rename_i hstatus
      exact Request.carries_redirected hcarries hstatus url
    · rename_i hstatus
      exact hnext.plain (Request.isPlain_redirected hstatus url)

/-- Where the first response points nowhere else, there is one request, and the answer is its own.
-/
theorem Trail.faithful {post : Request} {result : Except Failure Response}
    (h : Trail server maxRedirects [] post asked result) (hcarries : post.Carries text)
    (hdirect : ∀ response, server.answer [] post = some response →
      post.redirect? response = none) :
    Faithful server text (LedgerProxy.told result) asked := by
  obtain ⟨rfl, hresult⟩ := h.of_no_redirect hdirect
  refine ⟨List.length_filter_le _ [post], fun body hbody => ?_, ?_⟩
  · obtain ⟨response, rfl, hsuccess⟩ := told_eq_ok hbody
    cases hanswer : server.answer [] post with
    | none => simp [hanswer] at hresult
    | some found =>
        simp only [hanswer, Except.ok.injEq] at hresult
        rw [← hresult] at hanswer
        exact ⟨[], post, [], response, rfl, hcarries, hanswer, hsuccess⟩
  · intro before other after response body hasked _ hanswer hstatus hbody
    cases before with
    | cons first before => simp at hasked
    | nil =>
        cases hasked
        simp only [hanswer] at hresult
        rw [hresult]
        exact readVerdict_of_refused hstatus hbody

end

/-- What becomes of a submission, whatever the server answers. There are eleven requests at most:
first those that hand the submission in, and then those that hand in nothing. What is taken for
the ledger's answer is the answer to the last of them. If the server does not redirect the `POST`,
there is no other request and the answer is the ledger's own. If it does, 307 and 308 hand the
submission in again, and with 301, 302 and 303 some page is asked that never sees it. -/
theorem handIn_follows_redirects (proxy : LedgerProxy) (server : Server)
    (submission : Submission) :
    HandedIn server submission.text (proxy.handIn server submission).1
        (proxy.handIn server submission).2
      ∧ ((∀ post response, post.Carries submission.text →
            server.answer [] post = some response → post.redirect? response = none) →
          (proxy.handIn server submission).2.length ≤ 1
            ∧ Faithful server submission.text (proxy.handIn server submission).1
              (proxy.handIn server submission).2) := by
  rcases proxy.handIn_cases server submission with ⟨failure, hrun⟩
    | ⟨post, asked, result, hcarries, htrail, hrun⟩
  · rw [hrun]
    exact ⟨.unsent failure, fun _ => ⟨Nat.zero_le 1, .unsent failure⟩⟩
  · rw [hrun]
    refine ⟨htrail.handedIn hcarries, fun hdirect => ?_⟩
    have hfirst := fun response => hdirect post response hcarries
    refine ⟨?_, htrail.faithful hcarries hfirst⟩
    rw [(htrail.of_no_redirect hfirst).1]
    exact Nat.le_refl 1

/-- A submission that is not redirected is handed in once, and the answer to it is told. -/
theorem handIn_follows_redirects_direct :
    ∃ (server : Server) (submission : Submission),
      (∀ post response, post.Carries submission.text → server.answer [] post = some response →
          post.redirect? response = none)
        ∧ (loopback.handIn server submission).1 = .ok "taken"
        ∧ (loopback.handIn server submission).2.length = 1
        ∧ HandedIn server submission.text (loopback.handIn server submission).1
          (loopback.handIn server submission).2
        ∧ Faithful server submission.text (loopback.handIn server submission).1
          (loopback.handIn server submission).2 := by
  let server : Server := ⟨fun _ _ => some ⟨200, none, some "taken"⟩⟩
  let submission : Submission :=
    ⟨List.replicate 32 1, List.replicate 32 2, 7, .nativeTransfer 5, List.replicate 64 3⟩
  have hdirect : ∀ post response, post.Carries submission.text →
      server.answer [] post = some response → post.redirect? response = none := by
    rintro post response - hanswer
    cases hanswer
    rfl
  have hrun : loopback.handIn server submission
      = (.ok "taken", [⟨.post, loopbackUrl "transactions", some submission.text⟩]) := by
    rw [LedgerProxy.handIn_eq, post?_loopback]
    simp only
    rw [follow_run]
    rfl
  obtain ⟨hhanded, hfaithful⟩ := handIn_follows_redirects loopback server submission
  exact ⟨server, submission, hdirect, congrArg Prod.fst hrun,
    congrArg (fun run => run.2.length) hrun, hhanded, (hfaithful hdirect).2⟩

/-! ### A server that redirects -/

/-- A server that redirects the first request, and answers every other one with a page. -/
def moved (status : Nat) (page : String) : Server where
  answer past _ :=
    if past = [] then some ⟨status, some "/elsewhere", some ""⟩ else some ⟨200, none, some page⟩

/-- The redirect is followed, and the page is taken for the answer. -/
theorem handIn_moved {status : Nat} (hstatus : status ∈ [301, 302, 303, 307, 308]) (page : String)
    (submission : Submission) :
    loopback.handIn (moved status page) submission
      = (.ok page, [⟨.post, loopbackUrl "transactions", some submission.text⟩,
          Request.redirected ⟨.post, loopbackUrl "transactions", some submission.text⟩ status
            (loopbackUrl "elsewhere")]) := by
  let post : Request := ⟨.post, loopbackUrl "transactions", some submission.text⟩
  have hredirect : post.redirect? ⟨status, some "/elsewhere", some ""⟩
      = some (loopbackUrl "elsewhere") := by
    unfold Request.redirect?
    rw [if_pos hstatus]
    rfl
  have hasked : (loopbackUrl "elsewhere").canBeAsked = true := by decide +kernel
  have hfirst : (follow (moved status page).network maxRedirects post).run []
      = (follow (moved status page).network 9
          (post.redirected status (loopbackUrl "elsewhere"))).run [post] := by
    rw [follow_run]
    simp only [moved, if_true, hredirect, hasked]
    rfl
  rw [LedgerProxy.handIn_eq, post?_loopback]
  simp only
  rw [hfirst, follow_run]
  rfl

/-- A redirect stands in for the ledger's answer. With 307 the submission is handed in twice, and
with 302 a page that never saw it is taken for the answer. -/
theorem submission_redirected :
    ∃ (submission : Submission) (post again plain : Request),
      loopback.handIn (moved 307 "welcome") submission = (.ok "welcome", [post, again])
        ∧ post.Carries submission.text ∧ again.Carries submission.text
        ∧ ¬ Faithful (moved 307 "welcome") submission.text (.ok "welcome") [post, again]
        ∧ loopback.handIn (moved 302 "welcome") submission = (.ok "welcome", [post, plain])
        ∧ plain.IsPlain
        ∧ ¬ Faithful (moved 302 "welcome") submission.text (.ok "welcome") [post, plain] := by
  let submission : Submission :=
    ⟨List.replicate 32 1, List.replicate 32 2, 7, .nativeTransfer 5, List.replicate 64 3⟩
  let post : Request := ⟨.post, loopbackUrl "transactions", some submission.text⟩
  have hpost : post.Carries submission.text := ⟨rfl, rfl⟩
  -- The answer to the `POST` is a refusal, and would have to be told as one.
  have hunfaithful {status : Nat} {rest : List Request}
      (hstatus : (Response.mk status (some "/elsewhere") (some "")).isSuccess = false) :
      ¬ Faithful (moved status "welcome") submission.text (.ok "welcome") (post :: rest) := by
    intro h
    have hrefused := h.refused [] post rest ⟨status, some "/elsewhere", some ""⟩ "" rfl hpost rfl
      hstatus rfl
    cases hrefused
  exact ⟨submission, post, post.redirected 307 (loopbackUrl "elsewhere"),
    post.redirected 302 (loopbackUrl "elsewhere"), handIn_moved (by decide) _ _, hpost,
    Request.carries_redirected hpost (.inl rfl) _, hunfaithful rfl, handIn_moved (by decide) _ _,
    Request.isPlain_redirected (by decide) _, hunfaithful rfl⟩

end Custody.Http
