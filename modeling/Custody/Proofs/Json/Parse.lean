import Custody.Json.Parse
import Custody.Proofs.Json.Scan
import Custody.Proofs.Json.Scan.Sound

/-!
# `Custody.Proofs.Json.Parse`: a text parses to the value it writes

`parse_eq_some_iff`: a text parses to a value exactly if it is a text of that value, as the
grammar has it. So a text that parses to nothing is no JSON (`parse_eq_none_iff`), and what is
written reads back (`parse_compact`).

The scanner's half is in the modules on scanning. Here the reader is led through the tokens of a
value, with anything open around it and anything coming after it (`Reader.run_tokens`), so that
the items of an array and the members of an object can use the induction hypothesis as it stands.
On the way back, what is open says which tokens have been taken in (`Reader.Read`), and a
complete value is reached with the tokens of that value and no others.
-/

set_option autoImplicit false

namespace Custody.Json

namespace Reader

/-- What becomes of the tokens that follow once a step may have failed. -/
def resume (reader : Option Reader) (tokens : List Token) : Option Reader :=
  reader.bind fun reader => run reader tokens

/-- The first of some tokens is taken in before the others. -/
theorem run_cons (reader : Reader) (token : Token) (rest : List Token) :
    run reader (token :: rest) = resume (reader.step token) rest := by
  rw [run, resume]
  cases reader.step token <;> rfl

/-- The first token of a value opens it as the first item of an array, too. -/
theorem first_token (value : Value) :
    ∃ token rest, value.tokens = token :: rest
      ∧ ∀ stack, step ⟨.itemOrEnd, stack⟩ token = step ⟨.value, stack⟩ token := by
  cases value <;> exact ⟨_, _, rfl, fun _ => rfl⟩

/-- A first item is read as any other item. -/
theorem run_itemOrEnd (value : Value) (stack : List Frame) (tokens : List Token) :
    run ⟨.itemOrEnd, stack⟩ (value.tokens ++ tokens)
      = run ⟨.value, stack⟩ (value.tokens ++ tokens) := by
  obtain ⟨token, rest, htokens, hstep⟩ := first_token value
  rw [htokens, List.cons_append, run_cons, run_cons, hstep]

end Reader

open Reader

mutual

/-- The tokens of a value complete that value, whatever is open and whatever follows. -/
theorem Reader.run_tokens (value : Value) (stack : List Frame) (tokens : List Token) :
    run ⟨.value, stack⟩ (value.tokens ++ tokens) = resume (complete value stack) tokens := by
  cases value with
  | null => exact run_cons _ _ _
  | bool b => exact run_cons _ _ _
  | nat n => exact run_cons _ _ _
  | otherNumber => exact run_cons _ _ _
  | string s => exact run_cons _ _ _
  | array items =>
      rw [Value.tokens, List.cons_append, run_cons]
      show run ⟨.itemOrEnd, .array [] :: stack⟩ _ = _
      match items with
      | [] => exact run_cons _ _ _
      | item :: rest =>
          have ih := Reader.run_itemTokens item rest [] stack tokens
          -- `Value.itemTokens` asks whether another item follows. Either way the first one
          -- is read in the same way.
          cases rest with
          | nil =>
              rw [Value.itemTokens, List.append_assoc] at ih ⊢
              rw [run_itemOrEnd]
              exact ih
          | cons next rest =>
              rw [Value.itemTokens, List.append_assoc] at ih ⊢
              · rw [run_itemOrEnd]
                exact ih
              all_goals simp
  | object members =>
      rw [Value.tokens, List.cons_append, run_cons]
      show run ⟨.keyOrEnd, .object [] :: stack⟩ _ = _
      match members with
      | [] => exact run_cons _ _ _
      | (key, value) :: rest =>
          have ih := Reader.run_memberTokens key value rest [] stack tokens
          -- A first key is read as any other key.
          cases rest with
          | nil => exact ih
          | cons next rest => exact ih
termination_by sizeOf value

/-- The items that are left of an array complete it. -/
theorem Reader.run_itemTokens (item : Value) (rest done : List Value) (stack : List Frame)
    (tokens : List Token) :
    run ⟨.value, .array done :: stack⟩ (Value.itemTokens (item :: rest) ++ tokens)
      = resume (complete (.array (done.reverse ++ item :: rest)) stack) tokens := by
  match rest with
  | [] =>
      rw [Value.itemTokens, List.append_assoc, Reader.run_tokens item]
      show run ⟨.commaOrEnd, .array (item :: done) :: stack⟩ _ = _
      rw [List.cons_append, List.nil_append, run_cons]
      show resume (complete (.array (item :: done).reverse) stack) tokens = _
      rw [List.reverse_cons]
  | next :: rest =>
      rw [Value.itemTokens, List.append_assoc, Reader.run_tokens item]
      · show run ⟨.commaOrEnd, .array (item :: done) :: stack⟩ _ = _
        rw [List.cons_append, run_cons]
        show run ⟨.value, .array (item :: done) :: stack⟩ _ = _
        -- The items read so far are kept in reverse, so the new one goes on top.
        rw [Reader.run_itemTokens next rest (item :: done), List.reverse_cons, List.append_assoc]
        rfl
      · simp
termination_by sizeOf item + sizeOf rest

/-- The members that are left of an object complete it. -/
theorem Reader.run_memberTokens (key : Spelled) (value : Value) (rest done : List (Spelled × Value))
    (stack : List Frame) (tokens : List Token) :
    run ⟨.key, .object done :: stack⟩ (Value.memberTokens ((key, value) :: rest) ++ tokens)
      = resume (complete (.object (done.reverse ++ (key, value) :: rest)) stack) tokens := by
  match rest with
  | [] =>
      rw [Value.memberTokens, List.cons_append, List.cons_append, run_cons]
      show run ⟨.colon, .member done key :: stack⟩ _ = _
      rw [run_cons]
      show run ⟨.value, .member done key :: stack⟩ _ = _
      rw [List.append_assoc, Reader.run_tokens value]
      show run ⟨.commaOrEnd, .object ((key, value) :: done) :: stack⟩ _ = _
      rw [List.cons_append, List.nil_append, run_cons]
      show resume (complete (.object ((key, value) :: done).reverse) stack) tokens = _
      rw [List.reverse_cons]
  | (key', value') :: rest =>
      rw [Value.memberTokens, List.cons_append, List.cons_append, run_cons]
      · show run ⟨.colon, .member done key :: stack⟩ _ = _
        rw [run_cons]
        show run ⟨.value, .member done key :: stack⟩ _ = _
        rw [List.append_assoc, Reader.run_tokens value]
        show run ⟨.commaOrEnd, .object ((key, value) :: done) :: stack⟩ _ = _
        rw [List.cons_append, run_cons]
        show run ⟨.key, .object ((key, value) :: done) :: stack⟩ _ = _
        rw [Reader.run_memberTokens key' value' rest ((key, value) :: done), List.reverse_cons,
          List.append_assoc]
        rfl
      · simp
termination_by sizeOf value + sizeOf rest

end

/-- The tokens of a value spell that value. -/
theorem Value.ofTokens?_tokens (value : Value) : Value.ofTokens? value.tokens = some value := by
  have h := Reader.run_tokens value [] []
  rw [List.append_nil] at h
  rw [Value.ofTokens?, h]
  rfl

/-! ### From the reader to the tokens -/

/-- One more item in front of others. -/
theorem Value.itemTokens_cons (item : Value) {rest : List Value} (h : rest ≠ []) :
    Value.itemTokens (item :: rest) = item.tokens ++ .comma :: Value.itemTokens rest := by
  rw [Value.itemTokens]
  simpa using h

/-- One more member in front of others. -/
theorem Value.memberTokens_cons (key : Spelled) (value : Value) {rest : List (Spelled × Value)}
    (h : rest ≠ []) :
    Value.memberTokens ((key, value) :: rest)
      = .string key :: .colon :: (value.tokens ++ .comma :: Value.memberTokens rest) := by
  rw [Value.memberTokens]
  simpa using h

/-- The tokens of items that others come after. -/
def Value.itemsBefore (items : List Value) : List Token :=
  items.flatMap fun item => item.tokens ++ [.comma]

/-- The tokens of members that others come after. -/
def Value.membersBefore (members : List (Spelled × Value)) : List Token :=
  members.flatMap fun (key, value) => .string key :: .colon :: (value.tokens ++ [.comma])

/-- The last item has the bracket after it and no comma. -/
theorem Value.itemTokens_concat (items : List Value) (item : Value) :
    Value.itemTokens (items ++ [item])
      = Value.itemsBefore items ++ (item.tokens ++ [.closeBracket]) := by
  induction items with
  | nil => rw [List.nil_append, Value.itemTokens]; rfl
  | cons first items ih =>
      rw [List.cons_append, Value.itemTokens_cons first (by simp), ih, Value.itemsBefore,
        Value.itemsBefore, List.flatMap_cons]
      simp

/-- The last member has the brace after it and no comma. -/
theorem Value.memberTokens_concat (members : List (Spelled × Value)) (key : Spelled)
    (value : Value) :
    Value.memberTokens (members ++ [(key, value)])
      = Value.membersBefore members
        ++ .string key :: .colon :: (value.tokens ++ [.closeBrace]) := by
  induction members with
  | nil => rw [List.nil_append, Value.memberTokens]; rfl
  | cons first members ih =>
      obtain ⟨key', value'⟩ := first
      rw [List.cons_append, Value.memberTokens_cons key' value' (by simp), ih,
        Value.membersBefore, Value.membersBefore, List.flatMap_cons]
      simp

/-- The tokens that opened an array or an object and have been taken in since, up to where the
next item, key or value starts. -/
def Frame.tokens : Frame → List Token
  | .array items => .openBracket :: Value.itemsBefore items.reverse
  | .object members => .openBrace :: Value.membersBefore members.reverse
  | .member members key =>
    .openBrace :: (Value.membersBefore members.reverse ++ [.string key, .colon])

namespace Reader

/-- The tokens that opened all that is open. -/
def opened : List Frame → List Token
  | [] => []
  | frame :: stack => opened stack ++ frame.tokens

/-- The tokens that bring a reader to what it expects and has open. -/
inductive Read : Reader → List Token → Prop where
  | value (stack : List Frame) : Read ⟨.value, stack⟩ (opened stack)
  | itemOrEnd (stack : List Frame) :
      Read ⟨.itemOrEnd, .array [] :: stack⟩ (opened (.array [] :: stack))
  | keyOrEnd (stack : List Frame) :
      Read ⟨.keyOrEnd, .object [] :: stack⟩ (opened (.object [] :: stack))
  | key (members : List (Spelled × Value)) (stack : List Frame) :
      Read ⟨.key, .object members :: stack⟩ (opened (.object members :: stack))
  | colon (members : List (Spelled × Value)) (key : Spelled) (stack : List Frame) :
      Read ⟨.colon, .member members key :: stack⟩
        (opened (.object members :: stack) ++ [.string key])
  | item (item : Value) (items : List Value) (stack : List Frame) :
      Read ⟨.commaOrEnd, .array (item :: items) :: stack⟩
        (opened (.array items :: stack) ++ item.tokens)
  | member (key : Spelled) (value : Value) (members : List (Spelled × Value))
      (stack : List Frame) :
      Read ⟨.commaOrEnd, .object ((key, value) :: members) :: stack⟩
        (opened (.member members key :: stack) ++ value.tokens)
  | nothing (value : Value) : Read ⟨.nothing value, []⟩ value.tokens

/-- A complete value has been taken in after what is open. -/
theorem read_complete (value : Value) {stack : List Frame} {next : Reader}
    (h : complete value stack = some next) : Read next (opened stack ++ value.tokens) := by
  cases stack with
  | nil => cases h; exact .nothing value
  | cons frame stack =>
      cases frame with
      | array items => cases h; exact .item value items stack
      | member members key => cases h; exact .member key value members stack
      | object members => cases h

/-- A token where a value has to start is the whole value or opens it. -/
theorem read_value {stack : List Frame} {token : Token} {next : Reader}
    (h : value stack token = some next) : Read next (opened stack ++ [token]) := by
  cases token with
  | openBracket => cases h; exact .itemOrEnd stack
  | openBrace => cases h; exact .keyOrEnd stack
  | null => exact read_complete .null h
  | bool b => exact read_complete (.bool b) h
  | nat n => exact read_complete (.nat n) h
  | otherNumber => exact read_complete .otherNumber h
  | string s => exact read_complete (.string s) h
  | closeBracket | closeBrace | comma | colon => cases h

/-- A token where a key has to stand is that key. -/
theorem read_key {members : List (Spelled × Value)} {stack : List Frame} {token : Token}
    {next : Reader} (h : key (.object members :: stack) token = some next) :
    Read next (opened (.object members :: stack) ++ [token]) := by
  cases token with
  | string s => cases h; exact .colon members s stack
  | _ => cases h

/-- What one token keeps. -/
theorem Read.step {reader next : Reader} {tokens : List Token} {token : Token}
    (h : Read reader tokens) (hstep : reader.step token = some next) :
    Read next (tokens ++ [token]) := by
  cases h with
  | value stack => exact read_value hstep
  | itemOrEnd stack =>
      cases token with
      | closeBracket =>
          have hread := read_complete _ hstep
          rwa [opened, List.append_assoc]
      | _ => exact read_value hstep
  | keyOrEnd stack =>
      cases token with
      | closeBrace =>
          have hread := read_complete _ hstep
          rwa [opened, List.append_assoc]
      | _ => exact read_key hstep
  | key members stack => exact read_key hstep
  | colon members key stack =>
      cases token with
      | colon =>
          cases hstep
          have hread := Read.value (.member members key :: stack)
          simpa [opened, Frame.tokens] using hread
      | _ => cases hstep
  | item item items stack =>
      cases token with
      | comma =>
          cases hstep
          have hread := Read.value (.array (item :: items) :: stack)
          simpa [opened, Frame.tokens, Value.itemsBefore] using hread
      | closeBracket =>
          have hread := read_complete _ hstep
          rw [List.reverse_cons, Value.tokens, Value.itemTokens_concat] at hread
          simpa [opened, Frame.tokens] using hread
      | _ => cases hstep
  | member key value members stack =>
      cases token with
      | comma =>
          cases hstep
          have hread := Read.key ((key, value) :: members) stack
          simpa [opened, Frame.tokens, Value.membersBefore] using hread
      | closeBrace =>
          have hread := read_complete _ hstep
          rw [List.reverse_cons, Value.tokens, Value.memberTokens_concat] at hread
          simpa [opened, Frame.tokens] using hread
      | _ => cases hstep
  | nothing value => cases token <;> cases hstep

/-- What a run over many tokens keeps. -/
theorem Read.run {reader next : Reader} {tokens more : List Token} (h : Read reader tokens)
    (hrun : Reader.run reader more = some next) : Read next (tokens ++ more) := by
  induction more generalizing reader tokens with
  | nil =>
      cases hrun
      rwa [List.append_nil]
  | cons token more ih =>
      rw [run_cons] at hrun
      obtain ⟨middle, hstep, hrest⟩ := Option.bind_eq_some_iff.mp hrun
      have hnext := ih (h.step hstep) hrest
      rwa [List.append_assoc] at hnext

end Reader

/-- Tokens spell a value exactly if they are its tokens. -/
theorem Value.ofTokens?_eq_some_iff {tokens : List Token} {value : Value} :
    Value.ofTokens? tokens = some value ↔ tokens = value.tokens := by
  constructor
  · intro h
    unfold Value.ofTokens? at h
    split at h
    · rename_i found stack hrun
      cases h
      cases (Read.value []).run hrun
      rfl
    · cases h
  · rintro rfl
    exact value.ofTokens?_tokens

/-! ### Texts -/

/-- A token that is no number may stand in front of anything. -/
theorem isChain_cons_of_not_isNumber {token : Token} {tokens : List Token}
    (h : token.isNumber = false) (hrest : tokens.IsChain Token.Apart) :
    (token :: tokens).IsChain Token.Apart :=
  List.isChain_cons.mpr ⟨fun _ _ hnumber => absurd hnumber (by simp [h]), hrest⟩

mutual

/-- No two numbers are next to each other in the tokens of a value, nor after them if what comes
there does not start with a number. -/
theorem Value.isChain_tokens (value : Value) {next : Token} {rest : List Token}
    (hnext : next.isNumber = false) (hrest : rest.IsChain Token.Apart) :
    (value.tokens ++ next :: rest).IsChain Token.Apart := by
  have hchain := isChain_cons_of_not_isNumber hnext hrest
  have one (token : Token) : (token :: next :: rest).IsChain Token.Apart :=
    List.isChain_cons_cons.mpr ⟨fun _ => hnext, hchain⟩
  cases value with
  | null => exact one .null
  | bool b => exact one (.bool b)
  | nat n => exact one (.nat n)
  | otherNumber => exact one .otherNumber
  | string s => exact one (.string s)
  | array items => exact isChain_cons_of_not_isNumber rfl (Value.isChain_itemTokens items hchain)
  | object members =>
      exact isChain_cons_of_not_isNumber rfl (Value.isChain_memberTokens members hchain)
termination_by sizeOf value

/-- The same of the items of an array. -/
theorem Value.isChain_itemTokens (items : List Value) {rest : List Token}
    (hrest : rest.IsChain Token.Apart) :
    (Value.itemTokens items ++ rest).IsChain Token.Apart := by
  match items with
  | [] => exact isChain_cons_of_not_isNumber rfl hrest
  | [item] =>
      rw [Value.itemTokens, List.append_assoc]
      exact Value.isChain_tokens item rfl hrest
  | item :: next :: items =>
      rw [Value.itemTokens_cons item (by simp), List.append_assoc]
      exact Value.isChain_tokens item rfl (Value.isChain_itemTokens (next :: items) hrest)
termination_by sizeOf items

/-- The same of the members of an object. -/
theorem Value.isChain_memberTokens (members : List (Spelled × Value)) {rest : List Token}
    (hrest : rest.IsChain Token.Apart) :
    (Value.memberTokens members ++ rest).IsChain Token.Apart := by
  match members with
  | [] => exact isChain_cons_of_not_isNumber rfl hrest
  | [(key, value)] =>
      rw [Value.memberTokens, List.cons_append, List.cons_append, List.append_assoc]
      exact isChain_cons_of_not_isNumber rfl
        (isChain_cons_of_not_isNumber rfl (Value.isChain_tokens value rfl hrest))
  | (key, value) :: next :: members =>
      rw [Value.memberTokens_cons key value (by simp), List.cons_append, List.cons_append,
        List.append_assoc]
      exact isChain_cons_of_not_isNumber rfl (isChain_cons_of_not_isNumber rfl
        (Value.isChain_tokens value rfl (Value.isChain_memberTokens (next :: members) hrest)))
termination_by sizeOf members

end

/-- A text parses to a value exactly if it is a text of that value. -/
theorem parse_eq_some_iff {text : String} {value : Value} :
    parse text = some value ↔ IsTextOf value text := by
  rw [parse, IsTextOf]
  constructor
  · intro h
    cases hscan : Token.scan text.toList with
    | none => rw [hscan] at h; cases h
    | some tokens =>
        rw [hscan] at h
        rw [← Value.ofTokens?_eq_some_iff.mp h]
        exact Token.lexes_of_scan hscan
  · intro h
    have hchain : value.tokens.IsChain Token.Apart := by
      have hends : (value.tokens ++ [Token.comma]).IsChain Token.Apart :=
        value.isChain_tokens rfl .nil
      exact hends.left_of_append
    rw [Token.scan_of_lexes h hchain]
    exact value.ofTokens?_tokens

/-- A text that parses to nothing is no JSON. -/
theorem parse_eq_none_iff {text : String} :
    parse text = none ↔ ∀ value, ¬ IsTextOf value text := by
  simp [← parse_eq_some_iff, Option.eq_none_iff_forall_not_mem]

/-- The compact text of a value parses to that value. -/
theorem parse_compact (value : Value) : parse value.compact = some value :=
  parse_eq_some_iff.mpr (isTextOf_compact value)

end Custody.Json
