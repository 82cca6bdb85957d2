import HandlePool.Limits.Reader
import HandlePool.Proofs.Grammar

namespace HandlePool

namespace Json

theorem naturalOf_append (digits : List Char) (c : Char) :
    naturalOf (digits ++ [c]) = 10 * naturalOf digits + digitValue c := by
  simp [naturalOf, Nat.mul_comm]

theorem naturalOf_eq (digits : List Char) : naturalOf digits = Nat.ofDigitChars 10 digits 0 := by
  simp only [naturalOf, Nat.ofDigitChars_eq_foldl, digitValue, Nat.mul_comm]

theorem naturalOf_toDigits (n : Nat) : naturalOf (Nat.toDigits 10 n) = n := by
  rw [naturalOf_eq, Nat.ofDigitChars_ten_toDigits]

theorem digitValue_lt {c : Char} (digit : c.isDigit = true) : digitValue c < 10 := by
  have last : c.toNat ≤ '9'.toNat := by
    simp [Char.isDigit, UInt32.le_iff_toNat_le] at digit
    exact digit.2
  have : '9'.toNat = '0'.toNat + 9 := rfl
  unfold digitValue
  omega

theorem toDigits_digitValue {c : Char} (digit : c.isDigit = true) :
    Nat.toDigits 10 (digitValue c) = [c] := by
  have small := digitValue_lt digit
  have first : '0'.toNat ≤ c.toNat := by
    simp [Char.isDigit, UInt32.le_iff_toNat_le] at digit
    exact digit.1
  have same : (digitValue c).digitChar = c := by
    rw [← Char.toNat_inj, Nat.toNat_digitChar_of_lt_ten small]
    exact Nat.add_sub_of_le first
  rw [Nat.toDigits_of_lt_base small, same]

theorem head_toDigits {n : Nat} (pos : 0 < n) : (Nat.toDigits 10 n).head? ≠ some '0' := by
  induction n using Nat.strongRecOn with
  | ind n ih =>
      by_cases small : n < 10
      · rw [Nat.toDigits_of_lt_base small]
        simpa using Nat.ne_of_gt pos
      · have fewer := ih (n / 10) (by omega) (by omega)
        rwa [Nat.toDigits_of_base_le (by decide) (Nat.le_of_not_lt small),
          List.head?_append_of_ne_nil _ Nat.toDigits_ne_nil]

theorem whole_toDigits (n : Nat) : Whole (Nat.toDigits 10 n) := by
  refine ⟨⟨Nat.toDigits_ne_nil, fun c => Nat.isDigit_of_mem_toDigits (by decide) (by decide)⟩, ?_⟩
  rcases Nat.eq_zero_or_pos n with rfl | pos
  · exact Or.inl (Nat.toDigits_zero 10)
  · exact Or.inr (head_toDigits pos)

theorem toDigits_naturalOf {digits : List Char} (whole : Whole digits) :
    Nat.toDigits 10 (naturalOf digits) = digits := by
  induction digits using List.reverseRecOn with
  | nil => exact absurd rfl whole.digits.1
  | append_singleton digits c ih =>
      have last := whole.digits.2 c (by simp)
      rw [naturalOf_append]
      cases digits with
      | nil => exact (congrArg _ (Nat.zero_add _)).trans (toDigits_digitValue last)
      | cons first digits =>
          have leads : first ≠ '0' := by simpa using whole.leads
          have all := fun d member => whole.digits.2 d (List.mem_append_left [c] member)
          have shorter : Whole (first :: digits) := ⟨⟨by simp, all⟩, Or.inr (by simpa using leads)⟩
          -- Were it zero, it would be written as a zero, which it does not begin with.
          have pos : 0 < naturalOf (first :: digits) := by
            apply Nat.pos_of_ne_zero
            intro zero
            have same := ih shorter
            rw [zero, Nat.toDigits_zero] at same
            exact leads (List.cons.inj same).1.symm
          rw [← Nat.toDigits_append_toDigits (by decide) pos (digitValue_lt last), ih shorter,
            toDigits_digitValue last]

theorem real?_ne_natural (numeral : Numeral) (value : Nat) :
    numeral.real? ≠ some (.natural value) := by
  intro found
  unfold Numeral.real? at found
  dsimp only at found
  split at found
  · obtain ⟨magnitude, -, same⟩ := Option.map_eq_some_iff.mp found
    cases same
  · cases found

theorem number?_eq_natural {numeral : Numeral} {value : Nat}
    (found : numeral.number? = some (.natural value)) :
    numeral = ⟨false, numeral.whole, [], none⟩ ∧ naturalOf numeral.whole = value ∧
      value < UInt64.size := by
  obtain ⟨negative, whole, fraction, exponent⟩ := numeral
  unfold Numeral.number? at found
  split at found
  · rename_i plain
    obtain rfl : fraction = [] := List.isEmpty_iff.mp plain.1
    obtain rfl : exponent = none := Option.isNone_iff_eq_none.mp plain.2
    dsimp only at found
    split at found
    · rename_i fits
      obtain rfl : negative = false := Bool.eq_false_iff.mpr fits.1
      cases found
      exact ⟨rfl, rfl, fits.2⟩
    · split at found
      · cases found
      · exact absurd found (real?_ne_natural _ value)
  · exact absurd found (real?_ne_natural _ value)

def Token.Regular (token : Token) : Prop :=
  ∀ numeral, token = .number numeral → Whole numeral.whole

theorem regular_of_spells {tokens : List Token} {cs : List Char} (spells : Spells tokens cs) :
    ∀ token ∈ tokens, token.Regular := by
  induction spells with
  | nil => simp
  | blank blank rest ih => exact ih
  | lexeme lexeme rest ih =>
      refine List.forall_mem_cons.mpr ⟨?_, ih⟩
      rintro numeral rfl
      cases lexeme with
      | number written =>
          cases written with
          | positive plain unsigned => exact match unsigned with | .intro leads _ _ => leads
          | negative minus unsigned => exact match unsigned with | .intro leads _ _ => leads

theorem regular_of_covers {tokens : List Token} {cs : List Char} (covers : Covers tokens cs) :
    ∀ token ∈ tokens, token.Regular := by
  rcases covers with spells | ⟨spelt, first, rfl, -, spells⟩
  · exact regular_of_spells spells
  · intro token member
    rcases List.mem_append.mp member with before | junk
    · exact regular_of_spells spells token before
    · rintro numeral rfl
      cases List.mem_singleton.mp junk

end Json

namespace Limits

open HandlePool.Json

def sizeToken (value : UInt64) : Token := .number ⟨false, Nat.toDigits 10 value.toNat, [], none⟩

def membersTokens : List (String × List Token) → List Token
  | [] => []
  | [(key, value)] => .string (some key) :: .colon :: value
  | (key, value) :: members =>
      .string (some key) :: .colon :: (value ++ .comma :: membersTokens members)

def valuesOf (key : String) (members : List (String × List Token)) : List (List Token) :=
  (members.filter (·.1 == key)).map (·.2)

def Gives (members : List (String × List Token)) (key : String) (value : Token)
    (isDefault : Prop) : Prop :=
  valuesOf key members = [[value]] ∨ valuesOf key members = [] ∧ isDefault

/-- The members that make these limits. Any other key may stand anywhere, with any value. -/
structure Fits (members : List (String × List Token)) (limits : Limits) : Prop where
  maxIdle : Gives members "max_idle" (sizeToken limits.maxIdle) (limits.maxIdle = 10)
  maxActive : Gives members "max_active" (sizeToken limits.maxActive) (limits.maxActive = 0)
  wait : Gives members "wait" (.bool limits.wait) (limits.wait = false)
  unknown : ∀ key value, (key, value) ∈ members → key ∉ ["max_idle", "max_active", "wait"] →
    Forms .value value

inductive Denotes : List Token → Limits → Prop where
  | noElements : Denotes [.openArray, .closeArray] ⟨10, 0, false⟩
  | oneElement (maxIdle : UInt64) :
      Denotes [.openArray, sizeToken maxIdle, .closeArray] ⟨maxIdle, 0, false⟩
  | twoElements (maxIdle maxActive : UInt64) :
      Denotes [.openArray, sizeToken maxIdle, .comma, sizeToken maxActive, .closeArray]
        ⟨maxIdle, maxActive, false⟩
  | allElements (maxIdle maxActive : UInt64) (wait : Bool) :
      Denotes [.openArray, sizeToken maxIdle, .comma, sizeToken maxActive, .comma, .bool wait,
        .closeArray] ⟨maxIdle, maxActive, wait⟩
  | object {members limits} (fits : Fits members limits) :
      Denotes (.openObject :: (membersTokens members ++ [.closeObject])) limits

def Written (text : String) (limits : Limits) : Prop :=
  ∃ tokens, Spells tokens text.toList ∧ Denotes tokens limits

variable {token : Token} {tokens rest : List Token} {key : String}
  {members done : List (String × List Token)} {draft draft' last : Draft} {field : Field}
  {limits : Limits} {turns : Nat}

theorem readSize_sizeToken (value : UInt64) : readSize (sizeToken value) = .ok value := by
  have small : naturalOf (Nat.toDigits 10 value.toNat) < Decimal.twoTo 64 := by
    rw [naturalOf_toDigits]
    exact value.toNat_lt
  simp [readSize, sizeToken, Numeral.number?, small]
  simp [naturalOf_toDigits]

theorem reject_ne_ok {α : Type} (expected : Expected) (token : Token) (value : α) :
    reject expected token ≠ .ok value := by
  unfold reject
  split <;> simp

theorem readSize_sound {value : UInt64} (regular : token.Regular)
    (found : readSize token = .ok value) : token = sizeToken value := by
  unfold readSize at found
  split at found
  · rename_i numeral
    split at found
    · rename_i magnitude natural
      cases found
      obtain ⟨same, rfl, small⟩ := number?_eq_natural natural
      have kept : (UInt64.ofNat (naturalOf numeral.whole)).toNat = naturalOf numeral.whole :=
        UInt64.toNat_ofNat_of_lt' small
      rw [sizeToken, kept, toDigits_naturalOf (regular numeral rfl), ← same]
    · cases found
    · exact absurd found (reject_ne_ok _ _ _)
  · exact absurd found (reject_ne_ok _ _ _)

theorem readFlag_sound {value : Bool} (found : readFlag token = .ok value) :
    token = .bool value := by
  unfold readFlag at found
  split at found
  · cases found
    rfl
  · exact absurd found (reject_ne_ok _ _ _)

theorem sizeToken_inj {one two : UInt64} (same : sizeToken one = sizeToken two) : one = two := by
  have read := readSize_sizeToken one
  rw [same, readSize_sizeToken two] at read
  exact (Except.ok.inj read).symm

def Draft.shown (draft : Draft) : Field → List (List Token)
  | .maxIdle => (draft.maxIdle.map fun value => [sizeToken value]).toList
  | .maxActive => (draft.maxActive.map fun value => [sizeToken value]).toList
  | .wait => (draft.wait.map fun value => [Token.bool value]).toList

theorem Draft.ext_shown (same : ∀ field, draft.shown field = draft'.shown field) :
    draft = draft' := by
  have option {α : Type} {show_ : α → List Token} (distinct : Function.Injective show_)
      {one two : Option α} (same : (one.map show_).toList = (two.map show_).toList) : one = two :=
    Option.map_injective distinct (by simpa using congrArg List.head? same)
  have sizes : Function.Injective fun value : UInt64 => [sizeToken value] :=
    fun _ _ same => sizeToken_inj (List.singleton_inj.mp same)
  have flags : Function.Injective fun value : Bool => [Token.bool value] :=
    fun _ _ same => Token.bool.inj (List.singleton_inj.mp same)
  obtain ⟨maxIdle, maxActive, wait⟩ := draft
  rw [Draft.mk.injEq]
  exact ⟨option sizes (same .maxIdle), option sizes (same .maxActive), option flags (same .wait)⟩

def Draft.Puts (draft : Draft) (token : Token) (draft' : Draft) : Field → Prop
  | .maxIdle => ∃ value, token = sizeToken value ∧ draft' = { draft with maxIdle := some value }
  | .maxActive => ∃ value, token = sizeToken value ∧ draft' = { draft with maxActive := some value }
  | .wait => ∃ value, token = .bool value ∧ draft' = { draft with wait := some value }

theorem Draft.puts_of_fill (regular : token.Regular)
    (filled : draft.fill field token = .ok draft') : draft.Puts token draft' field := by
  cases field with
  | maxIdle | maxActive =>
      cases read : readSize token with
      | error fault => simp [fill, read, Except.map] at filled
      | ok value =>
          simp only [fill, read, Except.map] at filled
          cases filled
          exact ⟨value, readSize_sound regular read, rfl⟩
  | wait =>
      cases read : readFlag token with
      | error fault => simp [fill, read, Except.map] at filled
      | ok value =>
          simp only [fill, read, Except.map] at filled
          cases filled
          exact ⟨value, readFlag_sound read, rfl⟩

theorem Draft.fill_sound (regular : token.Regular) (filled : draft.fill field token = .ok draft') :
    draft'.shown field = [[token]] ∧
      ∀ other, other ≠ field → draft'.shown other = draft.shown other := by
  have puts := puts_of_fill regular filled
  cases field with
  | maxIdle | maxActive | wait =>
      obtain ⟨value, rfl, rfl⟩ := puts
      refine ⟨rfl, fun other apart => ?_⟩
      cases other <;> first | rfl | exact absurd rfl apart

theorem regular_sizeToken (value : UInt64) : (sizeToken value).Regular := by
  intro numeral same
  cases same
  exact whole_toDigits _

theorem Draft.fills (shows : draft'.shown field = [[token]]) :
    token.Regular ∧ ∃ filled, draft.fill field token = .ok filled := by
  have option {α : Type} {show_ : α → Token} {value : Option α}
      (shows : (value.map fun value => [show_ value]).toList = [[token]]) :
      ∃ value, token = show_ value := by
    cases value with
    | none => cases shows
    | some value =>
        cases shows
        exact ⟨value, rfl⟩
  cases field with
  | maxIdle | maxActive =>
      obtain ⟨value, rfl⟩ := option shows
      exact ⟨regular_sizeToken value, _, by simp only [fill, readSize_sizeToken]; rfl⟩
  | wait =>
      obtain ⟨value, rfl⟩ := option shows
      exact ⟨fun numeral same => (nomatch same), _, rfl⟩

theorem Draft.fill_of_shown (shows : draft'.shown field = [[token]])
    (others : ∀ other, other ≠ field → draft'.shown other = draft.shown other) :
    draft.fill field token = .ok draft' := by
  obtain ⟨regular, filled, fill⟩ := draft.fills shows
  obtain ⟨own, kept⟩ := fill_sound regular fill
  rw [fill]
  refine congrArg _ (ext_shown fun other => ?_)
  by_cases same : other = field
  · rw [same, own, shows]
  · rw [kept other same, others other same]

structure Drafts (members : List (String × List Token)) (draft : Draft) : Prop where
  known : ∀ field : Field, valuesOf field.name members = draft.shown field
  unknown : ∀ key value, (key, value) ∈ members → Field.ofName? key = none → Forms .value value

theorem has_iff : draft.has field = true ↔ draft.shown field ≠ [] := by
  cases field <;> simp [Draft.has, Draft.shown, Option.isSome_iff_ne_none]

theorem name_of_ofName? (found : Field.ofName? key = some field) : key = field.name := by
  have same := List.find?_some found
  exact (beq_iff_eq.mp same).symm

theorem name_inj {one two : Field} (same : one.name = two.name) : one = two := by
  have found := congrArg Field.ofName? same
  rw [Field.ofName?_name, Field.ofName?_name] at found
  exact Option.some.inj found

theorem ne_name_of_unknown (found : Field.ofName? key = none) (field : Field) :
    key ≠ field.name := by
  rintro rfl
  rw [Field.ofName?_name] at found
  cases found

theorem shown_cases (draft : Draft) (field : Field) :
    draft.shown field = [] ∨ ∃ token, draft.shown field = [[token]] := by
  have option {α : Type} (show_ : α → Token) (value : Option α) :
      (value.map fun value => [show_ value]).toList = [] ∨
        ∃ token, (value.map fun value => [show_ value]).toList = [[token]] := by
    cases value with
    | none => exact Or.inl rfl
    | some value => exact Or.inr ⟨show_ value, rfl⟩
  cases field with
  | maxIdle => exact option sizeToken draft.maxIdle
  | maxActive => exact option sizeToken draft.maxActive
  | wait => exact option Token.bool draft.wait

theorem valuesOf_append (key : String) (one two : List (String × List Token)) :
    valuesOf key (one ++ two) = valuesOf key one ++ valuesOf key two := by
  simp [valuesOf]

theorem valuesOf_own (value : List Token) : valuesOf key [(key, value)] = [value] := by
  simp [valuesOf]

theorem valuesOf_other {other : String} (apart : other ≠ key) (value : List Token) :
    valuesOf key [(other, value)] = [] := by
  simp [valuesOf, apart]

theorem Drafts.member_of_known (drafts : Drafts done draft) (found : Field.ofName? key = some field)
    (fresh : draft.has field = false) {token : Token} (shows : draft'.shown field = [[token]])
    (others : ∀ other, other ≠ field → draft'.shown other = draft.shown other) :
    Drafts (done ++ [(key, [token])]) draft' := by
  have empty : draft.shown field = [] := by
    by_contra filled
    rw [has_iff.mpr filled] at fresh
    cases fresh
  rw [name_of_ofName? found]
  refine ⟨fun other => ?_, fun other value member apart => ?_⟩
  · rw [valuesOf_append, drafts.known]
    by_cases own : other = field
    · rw [own, valuesOf_own, empty, shows]
      rfl
    · have apart : field.name ≠ other.name := fun same => own (name_inj same).symm
      rw [valuesOf_other apart, others other own, List.append_nil]
  · rcases List.mem_append.mp member with early | same
    · exact drafts.unknown other value early apart
    · cases List.mem_singleton.mp same
      rw [Field.ofName?_name] at apart
      cases apart

theorem Drafts.member_of_unknown (drafts : Drafts done draft) (found : Field.ofName? key = none)
    {value : List Token} (forms : Forms .value value) : Drafts (done ++ [(key, value)]) draft := by
  refine ⟨fun field => ?_, fun other value' member apart => ?_⟩
  · rw [valuesOf_append, valuesOf_other (ne_name_of_unknown found field), List.append_nil,
      drafts.known]
  · rcases List.mem_append.mp member with early | same
    · exact drafts.unknown other value' early apart
    · cases List.mem_singleton.mp same
      exact forms

theorem readMember_sound (regular : ∀ token ∈ tokens, token.Regular) (drafts : Drafts done draft)
    (read : draft.readMember key tokens = .ok (draft', rest)) :
    ∃ value, tokens = .colon :: (value ++ rest) ∧ Drafts (done ++ [(key, value)]) draft' := by
  unfold Draft.readMember at read
  split at read
  · rename_i field found
    split at read
    · cases read
    · rename_i fresh
      split at read
      · rename_i token rest'
        cases filled : draft.fill field token with
        | error fault => simp [filled, Except.map] at read
        | ok next =>
            rw [filled] at read
            cases read
            obtain ⟨shows, others⟩ := Draft.fill_sound (regular token (by simp)) filled
            exact ⟨[token], rfl,
              drafts.member_of_known found (by simpa using fresh) shows others⟩
      · cases read
  · rename_i found
    split at read
    · split at read
      · rename_i skipped
        cases read
        obtain ⟨value, rfl, forms⟩ := skipValue_eq_some_iff.mp skipped
        exact ⟨value, rfl, drafts.member_of_unknown found forms⟩
      · cases read
    · cases read

theorem readMember_of_drafts {value : List Token} (drafts : Drafts done draft)
    (drafts' : Drafts (done ++ [(key, value)]) draft') :
    draft.readMember key (.colon :: (value ++ rest)) = .ok (draft', rest) := by
  have grows (field : Field) : draft'.shown field =
      draft.shown field ++ valuesOf field.name [(key, value)] := by
    rw [← drafts'.known, valuesOf_append, drafts.known]
  cases found : Field.ofName? key with
  | none =>
      have same : draft = draft' := Draft.ext_shown fun field => by
        rw [grows, valuesOf_other (ne_name_of_unknown found field), List.append_nil]
      have forms := drafts'.unknown key value (by simp) found
      have skipped : skipValue (value ++ rest) = some rest :=
        skipValue_eq_some_iff.mpr ⟨value, rfl, forms⟩
      simp [Draft.readMember, found, skipped, same]
  | some field =>
      have own := grows field
      rw [name_of_ofName? found, valuesOf_own] at own
      obtain ⟨empty, token, rfl⟩ : draft.shown field = [] ∧ ∃ token, value = [token] := by
        rcases shown_cases draft' field with none | ⟨token, one⟩
        · rw [none] at own
          exact absurd own.symm (by simp)
        · rw [one] at own
          have empty : draft.shown field = [] := by
            have lengths := congrArg List.length own
            simp at lengths
            exact lengths
          rw [empty] at own
          exact ⟨empty, token, (List.singleton_inj.mp own).symm⟩
      have fresh : draft.has field = false := Bool.eq_false_iff.mpr fun has => has_iff.mp has empty
      have filled : draft.fill field token = .ok draft' :=
        Draft.fill_of_shown (by rw [own, empty]; rfl) fun other apart => by
          have apart : key ≠ other.name := by
            rw [name_of_ofName? found]
            exact fun same => apart (name_inj same).symm
          rw [grows, valuesOf_other apart, List.append_nil]
      simp [Draft.readMember, found, fresh, filled, Except.map]

theorem drafts_nil : Drafts [] {} :=
  ⟨fun field => by cases field <;> rfl, by simp⟩

def Draft.keep (keeps : Field → Bool) (draft : Draft) : Draft where
  maxIdle := if keeps .maxIdle then draft.maxIdle else none
  maxActive := if keeps .maxActive then draft.maxActive else none
  wait := if keeps .wait then draft.wait else none

theorem Draft.shown_keep (keeps : Field → Bool) (draft : Draft) (field : Field) :
    (draft.keep keeps).shown field = if keeps field then draft.shown field else [] := by
  cases field with
  | maxIdle => cases kept : keeps .maxIdle <;> simp [keep, shown, kept]
  | maxActive => cases kept : keeps .maxActive <;> simp [keep, shown, kept]
  | wait => cases kept : keeps .wait <;> simp [keep, shown, kept]

theorem drafts_of_append (drafts : Drafts (done ++ members) last) :
    ∃ draft, Drafts done draft := by
  -- The draft of the first members is the whole one without the fields that only later ones give.
  refine ⟨last.keep fun field => !(valuesOf field.name done).isEmpty, fun field => ?_,
    fun key value member => drafts.unknown key value (List.mem_append_left _ member)⟩
  have whole := drafts.known field
  rw [valuesOf_append] at whole
  rw [Draft.shown_keep]
  cases found : valuesOf field.name done with
  | nil => simp
  | cons value values =>
      rw [found] at whole
      rcases shown_cases last field with none | ⟨token, one⟩
      · rw [none] at whole
        cases whole
      · rw [one] at whole
        simp at whole
        simp [one, whole]

theorem drafts_unique (one : Drafts done draft) (two : Drafts done draft') : draft = draft' :=
  Draft.ext_shown fun field => (one.known field).symm.trans (two.known field)

theorem readMembers_sound (regular : ∀ token ∈ tokens, token.Regular) (drafts : Drafts done draft)
    (read : Draft.readMembers turns draft tokens = .ok (last, rest)) :
    ∃ member members, tokens = membersTokens (member :: members) ++ .closeObject :: rest ∧
      Drafts (done ++ member :: members) last := by
  induction turns generalizing done draft tokens with
  | zero => simp [Draft.readMembers] at read
  | succ turns ih =>
      unfold Draft.readMembers at read
      split at read
      · rename_i turns' draft' key after same
        cases same
        have regular' := (List.forall_mem_cons.mp regular).2
        split at read
        · cases read
        · rename_i draft' rest' member
          cases read
          obtain ⟨value, rfl, drafts'⟩ := readMember_sound regular' drafts member
          exact ⟨(key, value), [], by simp [membersTokens], drafts'⟩
        · rename_i draft' rest' member
          obtain ⟨value, rfl, drafts'⟩ := readMember_sound regular' drafts member
          have regular'' : ∀ token ∈ rest', token.Regular := fun token member =>
            regular' token (by simp [member])
          obtain ⟨second, members, rfl, drafts''⟩ := ih regular'' drafts' read
          exact ⟨(key, value), second :: members, by simp [membersTokens], by simpa using drafts''⟩
        · cases read
      · cases read

theorem readMembers_of_drafts {member : String × List Token} (drafts : Drafts done draft)
    (drafts' : Drafts (done ++ member :: members) last) (enough : members.length < turns) :
    Draft.readMembers turns draft (membersTokens (member :: members) ++ .closeObject :: rest) =
      .ok (last, rest) := by
  induction members generalizing member done draft turns with
  | nil =>
      obtain ⟨key, value⟩ := member
      obtain ⟨turns, rfl⟩ := Nat.exists_eq_succ_of_ne_zero (Nat.ne_of_gt enough)
      simp [membersTokens, Draft.readMembers, readMember_of_drafts drafts drafts']
  | cons second members ih =>
      obtain ⟨key, value⟩ := member
      obtain ⟨turns, rfl⟩ := Nat.exists_eq_succ_of_ne_zero (Nat.ne_of_gt (Nat.zero_lt_of_lt enough))
      rw [List.append_cons] at drafts'
      obtain ⟨draft', between⟩ := drafts_of_append drafts'
      have later := ih between drafts' (Nat.lt_of_succ_lt_succ enough)
      simp [membersTokens, Draft.readMembers, readMember_of_drafts drafts between, later]

theorem unknown_iff :
    key ∉ ["max_idle", "max_active", "wait"] ↔ Field.ofName? key = none := by
  constructor
  · intro apart
    rw [Field.ofName?, List.find?_eq_none]
    intro field _ same
    rw [← beq_iff_eq.mp same] at apart
    cases field <;> simp [Field.name] at apart
  · intro found member
    obtain ⟨field, rfl⟩ : ∃ field : Field, key = field.name := by
      rcases List.mem_cons.mp member with same | member
      · exact ⟨.maxIdle, same⟩
      · rcases List.mem_cons.mp member with same | member
        · exact ⟨.maxActive, same⟩
        · exact ⟨.wait, List.mem_singleton.mp member⟩
    exact ne_name_of_unknown found field rfl

theorem shown_limits (draft : Draft) :
    (draft.shown .maxIdle = [[sizeToken draft.limits.maxIdle]] ∨
      draft.shown .maxIdle = [] ∧ draft.limits.maxIdle = 10) ∧
    (draft.shown .maxActive = [[sizeToken draft.limits.maxActive]] ∨
      draft.shown .maxActive = [] ∧ draft.limits.maxActive = 0) ∧
    (draft.shown .wait = [[.bool draft.limits.wait]] ∨
      draft.shown .wait = [] ∧ draft.limits.wait = false) := by
  obtain ⟨maxIdle, maxActive, wait⟩ := draft
  refine ⟨?_, ?_, ?_⟩
  · cases maxIdle with
    | none => exact Or.inr ⟨rfl, rfl⟩
    | some => exact Or.inl rfl
  · cases maxActive with
    | none => exact Or.inr ⟨rfl, rfl⟩
    | some => exact Or.inl rfl
  · cases wait with
    | none => exact Or.inr ⟨rfl, rfl⟩
    | some => exact Or.inl rfl

theorem fits_of_drafts (drafts : Drafts members draft) : Fits members draft.limits := by
  obtain ⟨maxIdle, maxActive, wait⟩ := shown_limits draft
  rw [← drafts.known] at maxIdle maxActive wait
  exact ⟨maxIdle, maxActive, wait, fun key value member apart =>
    drafts.unknown key value member (unknown_iff.mp apart)⟩

theorem drafts_of_fits (fits : Fits members limits) :
    ∃ draft, Drafts members draft ∧ draft.limits = limits := by
  obtain ⟨maxIdle, maxActive, wait⟩ := limits
  obtain ⟨idle, active, waits, unknown⟩ := fits
  refine ⟨({ maxIdle := some maxIdle, maxActive := some maxActive, wait := some wait } : Draft).keep
    fun field => !(valuesOf field.name members).isEmpty, ⟨fun field => ?_, fun key value member
      apart => unknown key value member (unknown_iff.mpr apart)⟩, ?_⟩
  · rw [Draft.shown_keep]
    cases field with
    | maxIdle =>
        rcases idle with given | ⟨missing, -⟩
        · simp [Field.name, given, Draft.shown]
        · simp [Field.name, missing]
    | maxActive =>
        rcases active with given | ⟨missing, -⟩
        · simp [Field.name, given, Draft.shown]
        · simp [Field.name, missing]
    | wait =>
        rcases waits with given | ⟨missing, -⟩
        · simp [Field.name, given, Draft.shown]
        · simp [Field.name, missing]
  · rw [Draft.limits, Limits.mk.injEq]
    refine ⟨?_, ?_, ?_⟩
    · rcases idle with given | ⟨missing, default⟩
      · simp [Draft.keep, Field.name, given]
      · simpa [Draft.keep, Field.name, missing] using default.symm
    · rcases active with given | ⟨missing, default⟩
      · simp [Draft.keep, Field.name, given]
      · simpa [Draft.keep, Field.name, missing] using default.symm
    · rcases waits with given | ⟨missing, default⟩
      · simp [Draft.keep, Field.name, given]
      · simpa [Draft.keep, Field.name, missing] using default.symm

theorem readObject_sound (regular : ∀ token ∈ tokens, token.Regular)
    (read : Draft.readObject tokens = .ok (last, rest)) :
    ∃ members, tokens = membersTokens members ++ .closeObject :: rest ∧ Drafts members last := by
  unfold Draft.readObject at read
  split at read
  · cases read
    exact ⟨[], rfl, drafts_nil⟩
  · obtain ⟨member, members, rfl, drafts⟩ := readMembers_sound regular drafts_nil read
    exact ⟨member :: members, rfl, drafts⟩

theorem length_membersTokens (members : List (String × List Token)) :
    members.length ≤ (membersTokens members).length := by
  induction members with
  | nil => exact Nat.le_refl _
  | cons member members ih =>
      cases members with
      | nil => simp [membersTokens]
      | cons =>
          simp [membersTokens] at ih ⊢
          omega

theorem readObject_of_drafts (drafts : Drafts members last) :
    Draft.readObject (membersTokens members ++ .closeObject :: rest) = .ok (last, rest) := by
  cases members with
  | nil =>
      rw [drafts_unique drafts drafts_nil]
      rfl
  | cons member members =>
      have enough := length_membersTokens (member :: members)
      unfold Draft.readObject
      split
      · rename_i same
        cases members <;> cases same
      · apply readMembers_of_drafts drafts_nil drafts
        simp at enough ⊢
        omega

theorem readElements_cons {fields : List Field} (regular : ∀ token ∈ tokens, token.Regular)
    (read : Draft.readElements (field :: fields) draft tokens = .ok (last, rest)) :
    ∃ token filled, draft.Puts token filled field ∧
      (tokens = token :: .closeArray :: rest ∧ last = filled ∨
        ∃ more, tokens = token :: .comma :: more ∧ (∀ token ∈ more, token.Regular) ∧
          Draft.readElements fields filled more = .ok (last, rest)) := by
  unfold Draft.readElements at read
  split at read
  · rename_i field' fields' draft' token after same
    cases same
    obtain ⟨regular, regular'⟩ := List.forall_mem_cons.mp regular
    split at read
    · cases read
    · rename_i filled fill
      refine ⟨token, filled, Draft.puts_of_fill regular fill, ?_⟩
      split at read
      · cases read
        exact Or.inl ⟨rfl, rfl⟩
      · exact Or.inr ⟨_, rfl, (List.forall_mem_cons.mp regular').2, read⟩
      · cases read
  · cases read

theorem readArray_sound (regular : ∀ token ∈ tokens, token.Regular)
    (read : Draft.readArray tokens = .ok (last, [])) :
    Denotes (.openArray :: tokens) last.limits := by
  unfold Draft.readArray at read
  split at read
  · cases read
    exact .noElements
  · obtain ⟨first, filled, ⟨maxIdle, rfl, rfl⟩, ⟨rfl, rfl⟩ | ⟨more, rfl, regular, read⟩⟩ :=
      readElements_cons regular read
    · exact .oneElement maxIdle
    · obtain ⟨second, filled, ⟨maxActive, rfl, rfl⟩, ⟨rfl, rfl⟩ | ⟨more, rfl, regular, read⟩⟩ :=
        readElements_cons regular read
      · exact .twoElements maxIdle maxActive
      · obtain ⟨third, filled, ⟨wait, rfl, rfl⟩, ⟨rfl, rfl⟩ | ⟨more, rfl, regular, read⟩⟩ :=
          readElements_cons regular read
        · exact .allElements maxIdle maxActive wait
        · simp [Draft.readElements] at read

theorem ofTokens_sound (regular : ∀ token ∈ tokens, token.Regular)
    (read : ofTokens tokens = .ok limits) : Denotes tokens limits := by
  unfold ofTokens at read
  split at read
  · cases read
  · rename_i token rest
    obtain ⟨-, inside⟩ := List.forall_mem_cons.mp regular
    dsimp only at read
    split at read
    · rename_i draft reading
      obtain rfl := Except.ok.inj read
      split at reading
      · exact readArray_sound inside reading
      · obtain ⟨members, rfl, drafts⟩ := readObject_sound inside reading
        exact .object (fits_of_drafts drafts)
      · exact absurd reading (reject_ne_ok _ _ _)
    · exact absurd read (by simp)
    · exact absurd read (by simp)

theorem readElements_of_fill {fields : List Field} {filled : Draft}
    (fill : draft.fill field token = .ok filled) :
    Draft.readElements (field :: fields) draft (token :: .closeArray :: rest) =
        .ok (filled, rest) ∧
      Draft.readElements (field :: fields) draft (token :: .comma :: rest) =
        Draft.readElements fields filled rest := by
  constructor <;> simp [Draft.readElements, fill]

theorem ofTokens_of_denotes (denotes : Denotes tokens limits) : ofTokens tokens = .ok limits := by
  have idle (draft : Draft) (value : UInt64) : draft.fill .maxIdle (sizeToken value) =
      .ok { draft with maxIdle := some value } := by
    simp only [Draft.fill, readSize_sizeToken]
    rfl
  have active (draft : Draft) (value : UInt64) : draft.fill .maxActive (sizeToken value) =
      .ok { draft with maxActive := some value } := by
    simp only [Draft.fill, readSize_sizeToken]
    rfl
  have flag (draft : Draft) (value : Bool) : draft.fill .wait (.bool value) =
      .ok { draft with wait := some value } := rfl
  have array {draft : Draft} {first : UInt64} {more : List Token}
      (read : Draft.readElements Field.all {} (sizeToken first :: more) = .ok (draft, [])) :
      ofTokens (.openArray :: sizeToken first :: more) = .ok draft.limits := by
    have same : Draft.readArray (sizeToken first :: more) =
      Draft.readElements Field.all {} (sizeToken first :: more) := rfl
    simp only [ofTokens, same, read]
  cases denotes with
  | noElements => rfl
  | oneElement maxIdle =>
      exact array (readElements_of_fill (idle {} maxIdle)).1
  | twoElements maxIdle maxActive =>
      exact array ((readElements_of_fill (idle {} maxIdle)).2.trans
        (readElements_of_fill (active _ maxActive)).1)
  | allElements maxIdle maxActive wait =>
      exact array ((readElements_of_fill (idle {} maxIdle)).2.trans
        ((readElements_of_fill (active _ maxActive)).2.trans
          (readElements_of_fill (flag _ wait)).1))
  | object fits =>
      obtain ⟨draft, drafts, rfl⟩ := drafts_of_fits fits
      have read : Draft.readObject (membersTokens _ ++ [.closeObject]) = .ok (draft, []) :=
        readObject_of_drafts drafts
      simp only [ofTokens, read]

theorem forms_of_shown {value : List Token} (shown : value ∈ draft.shown field) :
    Forms .value value := by
  have option {α : Type} {show_ : α → Token} {given : Option α}
      (scalar : ∀ value, (show_ value).isScalar = true)
      (shown : value ∈ (given.map fun value => [show_ value]).toList) : Forms .value value := by
    cases given with
    | none => cases shown
    | some given =>
        rw [List.mem_singleton.mp shown]
        exact .scalar (scalar given)
  cases field with
  | maxIdle | maxActive | wait => exact option (fun _ => rfl) shown

theorem value_of_drafts (drafts : Drafts members draft) :
    ∀ member ∈ members, Forms .value member.2 := by
  rintro ⟨key, value⟩ member
  cases found : Field.ofName? key with
  | none => exact drafts.unknown key value member found
  | some field =>
      have shown : value ∈ draft.shown field := by
        rw [← drafts.known, ← name_of_ofName? found]
        exact List.mem_map.mpr ⟨_, List.mem_filter.mpr ⟨member, beq_self_eq_true key⟩, rfl⟩
      exact forms_of_shown shown

theorem forms_of_members {member : String × List Token}
    (values : ∀ member' ∈ member :: members, Forms .value member'.2) :
    Forms .members (membersTokens (member :: members)) := by
  induction members generalizing member with
  | nil => exact .lastMember (values member List.mem_cons_self)
  | cons second members ih =>
      obtain ⟨first, later⟩ := List.forall_mem_cons.mp values
      exact .member first (ih later)

theorem forms_of_denotes (denotes : Denotes tokens limits) : Forms .value tokens := by
  have size (value : UInt64) : Forms .value [sizeToken value] := .scalar rfl
  cases denotes with
  | noElements => exact .emptyArray
  | oneElement maxIdle => exact .array (.lastItem (size maxIdle))
  | twoElements maxIdle maxActive =>
      exact .array (.item (size maxIdle) (.lastItem (size maxActive)))
  | allElements maxIdle maxActive wait =>
      exact .array (.item (size maxIdle) (.item (size maxActive) (.lastItem (.scalar rfl))))
  | object fits =>
      rename_i members
      obtain ⟨draft, drafts, -⟩ := drafts_of_fits fits
      cases members with
      | nil => exact .emptyObject
      | cons member members => exact .object (forms_of_members (value_of_drafts drafts))

theorem read_of_written {text : String} (written : Written text limits) :
    read text = .ok limits := by
  obtain ⟨tokens, spells, denotes⟩ := written
  rw [read, tokens_of_spells spells (apart_of_forms (forms_of_denotes denotes))]
  exact ofTokens_of_denotes denotes

theorem written_of_read {text : String} (found : read text = .ok limits) : Written text limits := by
  have covers := covers_tokens text
  have denotes := ofTokens_sound (regular_of_covers covers) found
  exact ⟨tokens text, spells_of_covers covers (clean_of_forms (forms_of_denotes denotes)), denotes⟩

/-- The reader takes just the texts that spell limits, and finds those limits; every other text has
a fault. -/
theorem read_accepts_exactly (text : String) :
    (∀ limits, read text = .ok limits ↔ Written text limits) ∧
      ((∀ limits, ¬ Written text limits) → ∃ fault, read text = .error fault) := by
  refine ⟨fun limits => ⟨written_of_read, read_of_written⟩, fun none => ?_⟩
  cases found : read text with
  | error fault => exact ⟨fault, rfl⟩
  | ok limits => exact absurd (written_of_read found) (none limits)

example : read "\x7b\"wait\": true, \"w\\u0061it\": true\x7d" = .error (.duplicate .wait) := by
  decide +kernel

end Limits

end HandlePool
