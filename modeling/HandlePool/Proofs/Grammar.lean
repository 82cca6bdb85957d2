import HandlePool.Proofs.Lexemes

namespace HandlePool.Json

def Token.isScalar : Token → Bool
  | .null | .bool _ | .number _ | .string _ => true
  | _ => false

inductive Part where
  | value
  | items
  | members

/-- The items of an array and the members of an object are what stands between its brackets, if
anything does. -/
inductive Forms : Part → List Token → Prop where
  | scalar {token} (scalar : token.isScalar = true) : Forms .value [token]
  | emptyArray : Forms .value [.openArray, .closeArray]
  | array {items} (inside : Forms .items items) :
      Forms .value (.openArray :: (items ++ [.closeArray]))
  | emptyObject : Forms .value [.openObject, .closeObject]
  | object {members} (inside : Forms .members members) :
      Forms .value (.openObject :: (members ++ [.closeObject]))
  | lastItem {value} (one : Forms .value value) : Forms .items value
  | item {value items} (one : Forms .value value) (more : Forms .items items) :
      Forms .items (value ++ .comma :: items)
  | lastMember {key value} (one : Forms .value value) :
      Forms .members (.string key :: .colon :: value)
  | member {key value members} (one : Forms .value value) (more : Forms .members members) :
      Forms .members (.string key :: .colon :: (value ++ .comma :: members))

variable {part : Part} {tokens rest used value : List Token} {token : Token}
  {brackets outer : List Bracket} {awaited : Awaited}

def resume (brackets : List Bracket) (rest : List Token) : Option (List Token) :=
  match brackets with
  | [] => some rest
  | brackets => skipWithin .commaOrEnd brackets rest

theorem resume_cons {bracket : Bracket} :
    resume (bracket :: outer) rest = skipWithin .commaOrEnd (bracket :: outer) rest := rfl

theorem skipWithin_of_ended (ends : Turn.of brackets awaited token = .ended outer) :
    skipWithin awaited brackets (token :: rest) = resume outer rest := by
  cases outer <;> simp [skipWithin, ends, Turn.ended, resume]

theorem skipWithin_of_next {awaited' : Awaited}
    (goes : Turn.of brackets awaited token = .next awaited' outer) :
    skipWithin awaited brackets (token :: rest) = skipWithin awaited' outer rest := by
  simp [skipWithin, goes]

def Skips : Part → List Token → Prop
  | .value, tokens => ∀ brackets rest,
      skipWithin .value brackets (tokens ++ rest) = resume brackets rest
  | .items, tokens => ∀ brackets rest,
      skipWithin .value (.array :: brackets) (tokens ++ .closeArray :: rest) = resume brackets rest
  | .members, tokens => ∀ brackets rest,
      skipWithin .key (.object :: brackets) (tokens ++ .closeObject :: rest) =
        resume brackets rest

def Opens : Part → Token → Prop
  | .value, token | .items, token => token ≠ .closeArray
  | .members, token => ∃ key, token = .string key

theorem opens_of_forms (forms : Forms part tokens) :
    ∃ first more, tokens = first :: more ∧ Opens part first := by
  induction forms with
  | scalar scalar => exact ⟨_, _, rfl, fun closes => by simp [closes, Token.isScalar] at scalar⟩
  | emptyArray | array | emptyObject | object => exact ⟨_, _, rfl, fun closes => nomatch closes⟩
  | lastItem one ih => exact ih
  | item one more ih =>
      obtain ⟨first, more, rfl, opens⟩ := ih
      exact ⟨first, _, rfl, opens⟩
  | lastMember | member => exact ⟨_, _, rfl, _, rfl⟩

theorem skips_of_forms (forms : Forms part tokens) : Skips part tokens := by
  induction forms with
  | scalar scalar =>
      rename_i token
      intro brackets rest
      apply skipWithin_of_ended
      cases token <;> first | rfl | cases scalar
  | emptyArray | emptyObject =>
      intro brackets rest
      exact (skipWithin_of_next rfl).trans (skipWithin_of_ended rfl)
  | array inside ih =>
      intro brackets rest
      obtain ⟨first, more, rfl, opens⟩ := opens_of_forms inside
      have within := ih brackets rest
      simp only [List.cons_append, List.append_assoc, List.nil_append] at within ⊢
      rw [skipWithin_of_next rfl, ← within]
      -- Where the array may end, it goes on: its items do not begin with its end.
      unfold skipWithin
      cases first <;> first | rfl | exact absurd rfl opens
  | object inside ih =>
      intro brackets rest
      obtain ⟨first, more, rfl, key, rfl⟩ := opens_of_forms inside
      have within := ih brackets rest
      simp only [List.cons_append, List.append_assoc, List.nil_append] at within ⊢
      rw [skipWithin_of_next rfl, ← within]
      rfl
  | lastItem one ih =>
      intro brackets rest
      exact (ih _ _).trans (skipWithin_of_ended rfl)
  | item one more ih ih' =>
      intro brackets rest
      rw [List.append_assoc, ih, List.cons_append, resume_cons, skipWithin_of_next rfl]
      exact ih' brackets rest
  | lastMember one ih =>
      intro brackets rest
      rw [List.cons_append, List.cons_append, skipWithin_of_next rfl, skipWithin_of_next rfl, ih]
      exact skipWithin_of_ended rfl
  | member one more ih ih' =>
      intro brackets rest
      rw [List.cons_append, List.cons_append, skipWithin_of_next rfl, skipWithin_of_next rfl,
        List.append_assoc, ih, List.cons_append, resume_cons, skipWithin_of_next rfl]
      exact ih' brackets rest

inductive Closes : List Bracket → List Token → Prop where
  | nil : Closes [] []
  | endArray {outer after} (rest : Closes outer after) :
      Closes (.array :: outer) (.closeArray :: after)
  | endObject {outer after} (rest : Closes outer after) :
      Closes (.object :: outer) (.closeObject :: after)
  | item {outer value after} (one : Forms .value value) (rest : Closes (.array :: outer) after) :
      Closes (.array :: outer) (.comma :: (value ++ after))
  | member {outer key value after} (one : Forms .value value)
      (rest : Closes (.object :: outer) after) :
      Closes (.object :: outer) (.comma :: .string key :: .colon :: (value ++ after))

def FormsThen (brackets : List Bracket) (used : List Token) : Prop :=
  ∃ value after, used = value ++ after ∧ Forms .value value ∧ Closes brackets after

def Demands (brackets : List Bracket) : Awaited → List Token → Prop
  | .value, used => FormsThen brackets used
  | .valueOrEnd, used => FormsThen brackets used ∨
      ∃ after, used = .closeArray :: after ∧ Closes brackets.tail after
  | .key, used => ∃ key used', used = .string key :: .colon :: used' ∧ FormsThen brackets used'
  | .keyOrEnd, used =>
      (∃ key used', used = .string key :: .colon :: used' ∧ FormsThen brackets used') ∨
        ∃ after, used = .closeObject :: after ∧ Closes brackets.tail after
  | .colon, used => ∃ used', used = .colon :: used' ∧ FormsThen brackets used'
  | .commaOrEnd, used => Closes brackets used

def Turn.Demands : Turn → List Token → Prop
  | .refused, _ => False
  | .finished, used => used = []
  | .next awaited brackets, used => Json.Demands brackets awaited used

theorem closes_of_ended (demands : (Turn.ended brackets).Demands used) : Closes brackets used := by
  cases brackets with
  | nil =>
      cases (demands : used = [])
      exact .nil
  | cons => exact demands

theorem items_of_closes (closes : Closes (.array :: outer) used) :
    ∃ more after, used = more ++ .closeArray :: after ∧ Closes outer after ∧
      ∀ value, Forms .value value → Forms .items (value ++ more) := by
  generalize same : Bracket.array :: outer = brackets at closes
  induction closes with
  | nil => cases same
  | endArray rest =>
      cases same
      exact ⟨[], _, rfl, rest, fun value one => by simpa using Forms.lastItem one⟩
  | endObject | member => cases same
  | item one rest ih =>
      rename_i value rest
      cases same
      obtain ⟨more, after, rfl, closes, items⟩ := ih rfl
      exact ⟨.comma :: (value ++ more), after, by simp, closes,
        fun _ first => .item first (items value one)⟩

theorem members_of_closes (closes : Closes (.object :: outer) used) :
    ∃ more after, used = more ++ .closeObject :: after ∧ Closes outer after ∧
      ∀ key value, Forms .value value →
        Forms .members (.string key :: .colon :: (value ++ more)) := by
  generalize same : Bracket.object :: outer = brackets at closes
  induction closes with
  | nil => cases same
  | endObject rest =>
      cases same
      exact ⟨[], _, rfl, rest, fun key value one => by simpa using Forms.lastMember one⟩
  | endArray | item => cases same
  | member one rest ih =>
      rename_i key value rest
      cases same
      obtain ⟨more, after, rfl, closes, members⟩ := ih rfl
      exact ⟨.comma :: .string key :: .colon :: (value ++ more), after, by simp, closes,
        fun _ _ first => .member first (members key value one)⟩

theorem formsThen_of_began (demands : (Turn.began brackets token).Demands used) :
    FormsThen brackets (token :: used) := by
  cases token with
  | null | bool | number | string => exact ⟨[_], used, rfl, .scalar rfl, closes_of_ended demands⟩
  | openArray =>
      rcases (demands : Demands _ .valueOrEnd used) with
        ⟨value, after, rfl, one, closes⟩ | ⟨after, rfl, closes⟩
      · obtain ⟨more, after, rfl, closes, items⟩ := items_of_closes closes
        exact ⟨_, after, by simp, .array (items value one), closes⟩
      · exact ⟨_, after, rfl, .emptyArray, closes⟩
  | openObject =>
      rcases (demands : Demands _ .keyOrEnd used) with
        ⟨key, -, rfl, value, after, rfl, one, closes⟩ | ⟨after, rfl, closes⟩
      · obtain ⟨more, after, rfl, closes, members⟩ := members_of_closes closes
        exact ⟨_, after, by simp, .object (members key value one), closes⟩
      · exact ⟨_, after, rfl, .emptyObject, closes⟩
  | _ => cases demands

theorem demands_cons (demands : (Turn.of brackets awaited token).Demands used) :
    Demands brackets awaited (token :: used) := by
  cases awaited with
  | value => exact formsThen_of_began demands
  | valueOrEnd =>
      cases token with
      | closeArray => exact Or.inr ⟨used, rfl, closes_of_ended demands⟩
      | _ => exact Or.inl (formsThen_of_began demands)
  | key =>
      cases token with
      | string key =>
          obtain ⟨used, rfl, forms⟩ := demands
          exact ⟨key, used, rfl, forms⟩
      | _ => cases demands
  | keyOrEnd =>
      cases token with
      | string key =>
          obtain ⟨used, rfl, forms⟩ := demands
          exact Or.inl ⟨key, used, rfl, forms⟩
      | closeObject => exact Or.inr ⟨used, rfl, closes_of_ended demands⟩
      | _ => cases demands
  | colon =>
      cases token with
      | colon => exact ⟨used, rfl, demands⟩
      | _ => cases demands
  | commaOrEnd =>
      rcases brackets with _ | ⟨_ | _, outer⟩
      · cases demands
      · cases token with
        | comma =>
            obtain ⟨value, after, rfl, one, closes⟩ := demands
            exact .item one closes
        | closeArray => exact .endArray (closes_of_ended demands)
        | _ => cases demands
      · cases token with
        | comma =>
            obtain ⟨key, -, rfl, value, after, rfl, one, closes⟩ := demands
            exact .member one closes
        | closeObject => exact .endObject (closes_of_ended demands)
        | _ => cases demands

theorem demands_of_skipWithin (skipped : skipWithin awaited brackets tokens = some rest) :
    ∃ used, tokens = used ++ rest ∧ Demands brackets awaited used := by
  induction tokens generalizing awaited brackets with
  | nil => cases skipped
  | cons token tokens ih =>
      unfold skipWithin at skipped
      split at skipped
      · cases skipped
      · rename_i finished
        cases skipped
        refine ⟨[token], rfl, demands_cons ?_⟩
        rw [finished]
        rfl
      · rename_i awaited' brackets' goes
        obtain ⟨used, rfl, demands⟩ := ih skipped
        refine ⟨token :: used, rfl, demands_cons ?_⟩
        rw [goes]
        exact demands

theorem skipValue_eq_some_iff :
    skipValue tokens = some rest ↔ ∃ value, tokens = value ++ rest ∧ Forms .value value := by
  constructor
  · intro skipped
    obtain ⟨used, rfl, value, after, rfl, forms, closes⟩ := demands_of_skipWithin skipped
    cases closes
    exact ⟨value, by simp, forms⟩
  · rintro ⟨value, rfl, forms⟩
    exact skips_of_forms forms [] rest

theorem apart_append (first : tokens.IsChain Apart) (second : rest.IsChain Apart)
    (between : token.isNumber = false) : (tokens ++ token :: rest).IsChain Apart := by
  have boundary (other : Token) : Apart other token ∧ Apart token other :=
    ⟨fun _ => between, fun number => by rw [between] at number; cases number⟩
  rw [List.isChain_append]
  refine ⟨first, ?_, fun other _ next same => ?_⟩
  · rw [List.isChain_cons]
    exact ⟨fun other _ => (boundary other).2, second⟩
  · cases same
    exact (boundary other).1

theorem apart_cons (rest : tokens.IsChain Apart) (first : token.isNumber = false) :
    (token :: tokens).IsChain Apart :=
  apart_append .nil rest first

theorem apart_of_forms (forms : Forms part tokens) : tokens.IsChain Apart := by
  induction forms with
  | scalar => exact .singleton _
  | emptyArray | emptyObject => exact apart_cons (.singleton _) rfl
  | array inside ih => exact apart_cons (apart_append ih .nil rfl) rfl
  | object inside ih => exact apart_cons (apart_append ih .nil rfl) rfl
  | lastItem one ih => exact ih
  | item one more ih ih' => exact apart_append ih ih' rfl
  | lastMember one ih => exact apart_cons (apart_cons ih rfl) rfl
  | member one more ih ih' =>
      exact apart_cons (apart_cons (apart_append ih ih' rfl) rfl) rfl

theorem clean_of_forms (forms : Forms part tokens) : .junk ∉ tokens := by
  induction forms with
  | scalar scalar =>
      intro junk
      rw [← List.mem_singleton.mp junk] at scalar
      cases scalar
  | emptyArray | emptyObject => simp
  | array inside ih | object inside ih => simpa using ih
  | lastItem one ih => exact ih
  | item one more ih ih' => simp [ih, ih']
  | lastMember one ih => simpa using ih
  | member one more ih ih' => simp [ih, ih']

end HandlePool.Json
