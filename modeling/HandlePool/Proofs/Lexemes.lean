import Mathlib.Data.List.Chain
import HandlePool.Json.Token

namespace HandlePool.Json

def Digits (word : List Char) : Prop := word ≠ [] ∧ ∀ c ∈ word, c.isDigit = true

structure Whole (word : List Char) : Prop where
  digits : Digits word
  leads : word = ['0'] ∨ word.head? ≠ some '0'

inductive Fraction : List Char → List Char → Prop where
  | none : Fraction [] []
  | some {digits} (all : Digits digits) : Fraction digits ('.' :: digits)

inductive Sign : Bool → List Char → Prop where
  | minus : Sign true ['-']
  | plus : Sign false ['+']
  | none : Sign false []

inductive Exponent : Option (Bool × List Char) → List Char → Prop where
  | none : Exponent none []
  | some {mark negative sign digits} (marks : mark = 'e' ∨ mark = 'E')
      (signs : Sign negative sign) (all : Digits digits) :
      Exponent (some (negative, digits)) (mark :: (sign ++ digits))

inductive Unsigned : Numeral → List Char → Prop where
  | intro {negative whole fraction exponent written raised} (leads : Whole whole)
      (then_ : Fraction fraction written) (last : Exponent exponent raised) :
      Unsigned ⟨negative, whole, fraction, exponent⟩ (whole ++ (written ++ raised))

inductive Numeral.Written : Numeral → List Char → Prop where
  | positive {numeral word} (plain : numeral.negative = false) (rest : Unsigned numeral word) :
      Written numeral word
  | negative {numeral word} (minus : numeral.negative = true) (rest : Unsigned numeral word) :
      Written numeral ('-' :: word)

inductive Body : List Nat → List Char → Prop where
  | nil : Body [] []
  | plain {c units cs} (printable : 0x20 ≤ c.toNat) (quoteless : c ≠ '"') (bare : c ≠ '\\')
      (rest : Body units cs) : Body (c.toNat :: units) (c :: cs)
  | short {c unit units cs} (names : shortEscape? c = some unit) (rest : Body units cs) :
      Body (unit :: units) ('\\' :: c :: cs)
  | long {a b c d unit units cs} (names : hexUnit? a b c d = some unit) (rest : Body units cs) :
      Body (unit :: units) ('\\' :: 'u' :: a :: b :: c :: d :: cs)

/-- The characters that units stand for: each for itself, or two surrogates for one beyond the
basic plane. -/
inductive Joins : List Nat → List Char → Prop where
  | nil : Joins [] []
  | scalar {c units cs} (rest : Joins units cs) : Joins (c.toNat :: units) (c :: cs)
  | pair {c high low units cs} (leads : isHighSurrogate high = true)
      (trails : isLowSurrogate low = true)
      (stands : c.toNat = 0x10000 + (high - 0xd800) * 0x400 + (low - 0xdc00))
      (rest : Joins units cs) : Joins (high :: low :: units) (c :: cs)

def Decodes (units : List Nat) : Option String → Prop
  | some text => Joins units text.toList
  | none => ∀ chars, ¬ Joins units chars

inductive Lexeme : Token → List Char → Prop where
  | openObject : Lexeme .openObject ['\x7b']
  | closeObject : Lexeme .closeObject ['\x7d']
  | openArray : Lexeme .openArray ['[']
  | closeArray : Lexeme .closeArray [']']
  | colon : Lexeme .colon [':']
  | comma : Lexeme .comma [',']
  | null : Lexeme .null ['n', 'u', 'l', 'l']
  | true : Lexeme (.bool true) ['t', 'r', 'u', 'e']
  | false : Lexeme (.bool false) ['f', 'a', 'l', 's', 'e']
  | number {numeral word} (written : numeral.Written word) : Lexeme (.number numeral) word
  | string {units body text} (holds : Body units body) (decodes : Decodes units text) :
      Lexeme (.string text) ('"' :: (body ++ ['"']))

/-- The text is that of the tokens, in order, with blanks anywhere around them. -/
inductive Spells : List Token → List Char → Prop where
  | nil : Spells [] []
  | blank {tokens c cs} (blank : isBlank c = true) (rest : Spells tokens cs) :
      Spells tokens (c :: cs)
  | lexeme {token tokens word cs} (lexeme : Lexeme token word) (rest : Spells tokens cs) :
      Spells (token :: tokens) (word ++ cs)

section Numbers

variable {word cs rest : List Char} {negative : Bool}

def Stops (rest : List Char) : Prop :=
  ∀ c ∈ rest.head?, c.isDigit = false ∧ c ≠ '.' ∧ c ≠ 'e' ∧ c ≠ 'E'

theorem splitDigits_sound (cs : List Char) :
    cs = (splitDigits cs).1 ++ (splitDigits cs).2 ∧
      ∀ c ∈ (splitDigits cs).1, c.isDigit = true :=
  ⟨List.takeWhile_append_dropWhile.symm, List.all_eq_true.mp List.all_takeWhile⟩

theorem splitDigits_append (all : ∀ c ∈ word, c.isDigit = true)
    (stops : ∀ c ∈ rest.head?, c.isDigit = false) : splitDigits (word ++ rest) = (word, rest) := by
  unfold splitDigits
  rw [List.takeWhile_append_of_pos all, List.dropWhile_append_of_pos all]
  cases rest with
  | nil => simp
  | cons c rest => simp [stops c rfl]

theorem readWhole_sound (found : Numeral.readWhole cs = some (word, rest)) :
    cs = word ++ rest ∧ Whole word := by
  obtain ⟨splits, all⟩ := splitDigits_sound cs
  unfold Numeral.readWhole at found
  split at found
  · cases found
  · cases found
  · rename_i digits after nonempty lone found_
    cases found
    rw [found_] at splits all
    refine ⟨splits, ⟨nonempty, all⟩, ?_⟩
    rcases word with _ | ⟨c, _ | ⟨d, ds⟩⟩
    · exact Or.inr (by simp)
    · by_cases zero : c = '0'
      · exact Or.inl (zero ▸ rfl)
      · exact Or.inr (by simpa using zero)
    · refine Or.inr fun zero => ?_
      cases zero
      exact lone d ds rfl

theorem readWhole_append (whole : Whole word) (stops : ∀ c ∈ rest.head?, c.isDigit = false) :
    Numeral.readWhole (word ++ rest) = some (word, rest) := by
  have splits := splitDigits_append whole.digits.2 stops
  unfold Numeral.readWhole
  split
  · rename_i found
    exact absurd (Prod.mk.inj (splits.symm.trans found)).1 whole.digits.1
  · rename_i found
    have same := (Prod.mk.inj (splits.symm.trans found)).1
    rcases whole.leads with alone | other
    · rw [alone] at same
      cases same
    · rw [same] at other
      exact absurd rfl other
  · rename_i found
    rw [← found, splits]

theorem readFraction_sound (found : Numeral.readFraction cs = some (word, rest)) :
    ∃ written, cs = written ++ rest ∧ Fraction word written := by
  unfold Numeral.readFraction at found
  split at found
  · rename_i cs
    obtain ⟨splits, all⟩ := splitDigits_sound cs
    split at found
    · cases found
    · rename_i digits after nonempty found_
      cases found
      rw [found_] at splits all
      exact ⟨'.' :: word, by rw [splits]; rfl,
        .some ⟨nonempty, all⟩⟩
  · cases found
    exact ⟨[], rfl, .none⟩

theorem readFraction_append {written : List Char} (fraction : Fraction word written)
    (stops : ∀ c ∈ rest.head?, c.isDigit = false ∧ c ≠ '.') :
    Numeral.readFraction (written ++ rest) = some (word, rest) := by
  cases fraction with
  | none =>
      cases rest with
      | nil => rfl
      | cons c rest =>
          have apart := (stops c rfl).2
          unfold Numeral.readFraction
          split
          · rename_i same
            cases same
            exact absurd rfl apart
          · rfl
  | some all =>
      have splits := splitDigits_append all.2 fun c first => (stops c first).1
      simp only [Numeral.readFraction, List.cons_append, splits]
      split
      · rename_i found
        cases found
        exact absurd rfl all.1
      · rename_i found
        rw [found]

theorem readSign_sound (cs : List Char) :
    ∃ sign, cs = sign ++ (Numeral.readSign cs).2 ∧ Sign (Numeral.readSign cs).1 sign := by
  unfold Numeral.readSign
  split
  · exact ⟨['-'], rfl, .minus⟩
  · exact ⟨['+'], rfl, .plus⟩
  · exact ⟨[], rfl, .none⟩

theorem readSign_append {sign : List Char} (signs : Sign negative sign) (digits : Digits word) :
    Numeral.readSign (sign ++ (word ++ rest)) = (negative, word ++ rest) := by
  cases signs with
  | minus => rfl
  | plus => rfl
  | none =>
      obtain ⟨c, cs, rfl⟩ := List.exists_cons_of_ne_nil digits.1
      have digit := digits.2 c List.mem_cons_self
      unfold Numeral.readSign
      split
      · rename_i same
        cases same
        cases digit
      · rename_i same
        cases same
        cases digit
      · rfl

theorem readExponent_sound {exponent : Option (Bool × List Char)}
    (found : Numeral.readExponent cs = some (exponent, rest)) :
    ∃ raised, cs = raised ++ rest ∧ Exponent exponent raised := by
  unfold Numeral.readExponent at found
  split at found
  · rename_i c cs
    split at found
    · rename_i marks
      obtain ⟨sign, signs, is⟩ := readSign_sound cs
      obtain ⟨splits, all⟩ := splitDigits_sound (Numeral.readSign cs).2
      dsimp only at found
      split at found
      · cases found
      · rename_i digits after nonempty found_
        cases found
        rw [found_] at splits all
        refine ⟨c :: (sign ++ digits), by rw [signs, splits]; simp, .some (by simpa using marks) is
          ⟨nonempty, all⟩⟩
    · cases found
      exact ⟨[], rfl, .none⟩
  · cases found
    exact ⟨[], rfl, .none⟩

theorem readExponent_append {exponent : Option (Bool × List Char)} {raised : List Char}
    (written : Exponent exponent raised)
    (stops : ∀ c ∈ rest.head?, c.isDigit = false ∧ c ≠ 'e' ∧ c ≠ 'E') :
    Numeral.readExponent (raised ++ rest) = some (exponent, rest) := by
  cases written with
  | none =>
      cases rest with
      | nil => rfl
      | cons c rest =>
          obtain ⟨-, small, capital⟩ := stops c rfl
          simp [Numeral.readExponent, small, capital]
  | some marks signs all =>
      rename_i mark negative sign digits
      have splits := splitDigits_append all.2 fun c first => (stops c first).1
      have marked : (mark == 'e' || mark == 'E') = true := by simpa using marks
      unfold Numeral.readExponent
      rw [List.cons_append, List.append_assoc]
      dsimp only
      rw [marked, if_pos rfl, readSign_append signs all]
      dsimp only
      rw [splits]
      split
      · rename_i found
        cases found
        exact absurd rfl all.1
      · rename_i found
        cases found
        rfl

theorem readUnsigned_sound {numeral : Numeral}
    (found : Numeral.readUnsigned negative cs = some (numeral, rest)) :
    numeral.negative = negative ∧ ∃ word, cs = word ++ rest ∧ Unsigned numeral word := by
  unfold Numeral.readUnsigned at found
  split at found
  · cases found
  · rename_i whole cs' whole_found
    split at found
    · cases found
    · rename_i fraction cs'' fraction_found
      split at found
      · cases found
      · rename_i exponent cs''' exponent_found
        cases found
        obtain ⟨rfl, leads⟩ := readWhole_sound whole_found
        obtain ⟨written, rfl, then_⟩ := readFraction_sound fraction_found
        obtain ⟨raised, rfl, last⟩ := readExponent_sound exponent_found
        exact ⟨rfl, whole ++ (written ++ raised), by simp, .intro leads then_ last⟩

theorem readUnsigned_append {numeral : Numeral} (written : Unsigned numeral word)
    (stops : Stops rest) :
    Numeral.readUnsigned numeral.negative (word ++ rest) = some (numeral, rest) := by
  cases written with
  | intro leads then_ last =>
      rename_i negative whole fraction exponent written raised
      -- Each part ends where the next one begins, and the later ones may be missing.
      have after : ∀ c ∈ (raised ++ rest).head?, c.isDigit = false ∧ c ≠ '.' := by
        intro c first
        cases last with
        | none => exact ⟨(stops c first).1, (stops c first).2.1⟩
        | some marks signs all =>
            cases first
            rcases marks with rfl | rfl <;> decide
      have before : ∀ c ∈ (written ++ (raised ++ rest)).head?, c.isDigit = false := by
        intro c first
        cases then_ with
        | none => exact (after c first).1
        | some all =>
            cases first
            rfl
      unfold Numeral.readUnsigned
      rw [List.append_assoc, List.append_assoc, readWhole_append leads before]
      dsimp only
      rw [readFraction_append then_ after]
      dsimp only
      rw [readExponent_append last fun c first => ⟨(stops c first).1, (stops c first).2.2⟩]

theorem begins_of_unsigned {numeral : Numeral} (written : Unsigned numeral word) :
    ∃ c cs, word = c :: cs ∧ c.isDigit = true := by
  cases written with
  | intro leads then_ last =>
      obtain ⟨c, cs, rfl⟩ := List.exists_cons_of_ne_nil leads.digits.1
      exact ⟨c, _, rfl, leads.digits.2 c List.mem_cons_self⟩

theorem begins_of_written {numeral : Numeral} (written : numeral.Written word) :
    ∃ c cs, word = c :: cs ∧ (c = '-' ∨ c.isDigit = true) := by
  cases written with
  | positive plain unsigned =>
      obtain ⟨c, cs, same, digit⟩ := begins_of_unsigned unsigned
      exact ⟨c, cs, same, Or.inr digit⟩
  | negative minus unsigned => exact ⟨'-', _, rfl, Or.inl rfl⟩

theorem read_sound {numeral : Numeral} (found : Numeral.read cs = some (numeral, rest)) :
    ∃ word, cs = word ++ rest ∧ numeral.Written word := by
  unfold Numeral.read at found
  split at found
  · obtain ⟨minus, word, rfl, unsigned⟩ := readUnsigned_sound found
    exact ⟨'-' :: word, rfl, .negative minus unsigned⟩
  · obtain ⟨plain, word, rfl, unsigned⟩ := readUnsigned_sound found
    exact ⟨word, rfl, .positive plain unsigned⟩

theorem read_append {numeral : Numeral} (written : numeral.Written word) (stops : Stops rest) :
    Numeral.read (word ++ rest) = some (numeral, rest) := by
  cases written with
  | positive plain unsigned =>
      have reads := readUnsigned_append unsigned stops
      obtain ⟨c, cs, rfl, digit⟩ := begins_of_unsigned unsigned
      unfold Numeral.read
      split
      · rename_i same
        cases same
        cases digit
      · rw [← plain, reads]
  | negative minus unsigned =>
      have reads := readUnsigned_append unsigned stops
      rwa [minus] at reads

end Numbers

section Strings

variable {body cs rest chars after : List Char} {units more result : List Nat} {unit : Nat}
  {c : Char}

theorem readUnits_sound (found : readUnits cs units = some (result, rest)) :
    ∃ body more, cs = body ++ '"' :: rest ∧ Body more body ∧ result = units.reverse ++ more := by
  fun_induction readUnits cs units with
  | case1 | case4 | case6 | case7 => cases found
  | case2 =>
      cases found
      exact ⟨[], [], rfl, .nil, by simp⟩
  | case3 a b c d cs units unit names ih =>
      obtain ⟨body, more, rfl, holds, rfl⟩ := ih found
      exact ⟨_, unit :: more, rfl, .long names holds, by simp⟩
  | case5 c cs units other unit names ih =>
      obtain ⟨body, more, rfl, holds, rfl⟩ := ih found
      exact ⟨_, unit :: more, rfl, .short names holds, by simp⟩
  | case8 c cs units quoteless _ bare printable ih =>
      obtain ⟨body, more, rfl, holds, rfl⟩ := ih found
      refine ⟨c :: body, c.toNat :: more, rfl,
        .plain (Nat.le_of_not_lt printable) quoteless (fun slash => ?_) holds, by simp⟩
      cases body with
      | nil => exact bare _ _ slash rfl
      | cons => exact bare _ _ slash rfl

theorem readUnits_append (holds : Body more body) :
    readUnits (body ++ '"' :: rest) units = some (units.reverse ++ more, rest) := by
  induction holds generalizing units with
  | nil => simp [readUnits]
  | plain printable quoteless bare within ih =>
      have shown := Nat.not_lt.mpr printable
      rw [List.cons_append, readUnits]
      · rw [if_neg shown, ih]
        simp
      · exact quoteless
      · exact fun a b c d cs slash => absurd slash bare
      · exact fun c cs slash => absurd slash bare
  | short names within ih =>
      rw [List.cons_append, List.cons_append, readUnits]
      · rw [names]
        dsimp only
        rw [ih]
        simp
      · rintro a b c d cs rfl
        cases names
  | long names within ih =>
      simp only [List.cons_append, readUnits]
      rw [names]
      dsimp only
      rw [ih]
      simp

theorem hexValue_lt (found : hexValue? c = some unit) : unit < 16 := by
  unfold hexValue? at found
  split at found
  · rename_i digit
    have last : c.toNat ≤ '9'.toNat := digit.2
    cases found
    simp at last ⊢
    omega
  · split at found
    · rename_i letter
      have last : c.toNat ≤ 'f'.toNat := letter.2
      cases found
      simp at last ⊢
      omega
    · split at found
      · rename_i letter
        have last : c.toNat ≤ 'F'.toNat := letter.2
        cases found
        simp at last ⊢
        omega
      · cases found

theorem hexUnit_lt {a b c d : Char} (found : hexUnit? a b c d = some unit) : unit < 0x10000 := by
  unfold hexUnit? at found
  split at found
  · rename_i first second third fourth
    have := hexValue_lt first
    have := hexValue_lt second
    have := hexValue_lt third
    have := hexValue_lt fourth
    cases found
    omega
  · cases found

theorem shortEscape_lt (found : shortEscape? c = some unit) : unit < 0x10000 := by
  unfold shortEscape? at found
  split at found <;> cases found <;> decide

theorem toNat_lt (c : Char) : c.toNat < 0x110000 := by
  have valid : c.toNat < 0xd800 ∨ 0xdfff < c.toNat ∧ c.toNat < 0x110000 := c.valid
  omega

theorem unit_lt (holds : Body units body) : ∀ unit ∈ units, unit < 0x110000 := by
  induction holds with
  | nil => simp
  | plain printable quoteless bare within ih => exact List.forall_mem_cons.mpr ⟨toNat_lt _, ih⟩
  | short names within ih =>
      have small := shortEscape_lt names
      exact List.forall_mem_cons.mpr ⟨by omega, ih⟩
  | long names within ih =>
      have small := hexUnit_lt names
      exact List.forall_mem_cons.mpr ⟨by omega, ih⟩

theorem toNat_ofNat (plain : unit < 0xd800 ∨ 0xdfff < unit) (small : unit < 0x110000) :
    (Char.ofNat unit).toNat = unit := by
  have valid : unit.isValidChar := by
    rcases plain with low | high
    · exact Or.inl low
    · exact Or.inr ⟨high, small⟩
  rw [Char.ofNat, dif_pos valid]
  rfl

theorem isHighSurrogate_iff : isHighSurrogate unit = true ↔ 0xd800 ≤ unit ∧ unit < 0xdc00 := by
  simp [isHighSurrogate]

theorem isLowSurrogate_iff : isLowSurrogate unit = true ↔ 0xdc00 ≤ unit ∧ unit < 0xe000 := by
  simp [isLowSurrogate]

theorem not_surrogate (c : Char) :
    isHighSurrogate c.toNat = false ∧ isLowSurrogate c.toNat = false := by
  have valid : c.toNat < 0xd800 ∨ 0xdfff < c.toNat ∧ c.toNat < 0x110000 := c.valid
  rw [Bool.eq_false_iff, Bool.eq_false_iff, Ne, Ne, isHighSurrogate_iff, isLowSurrogate_iff]
  omega

theorem joins_ofNat (high : ¬ isHighSurrogate unit = true) (low : ¬ isLowSurrogate unit = true)
    (small : unit < 0x110000) (joins : Joins units after) :
    Joins (unit :: units) (Char.ofNat unit :: after) := by
  rw [isHighSurrogate_iff] at high
  rw [isLowSurrogate_iff] at low
  have scalar := Joins.scalar (c := Char.ofNat unit) joins
  rwa [toNat_ofNat (by omega) small] at scalar

theorem joinUnits_sound {text : List Char} (small : ∀ unit ∈ units, unit < 0x110000)
    (found : joinUnits units chars = some text) :
    ∃ more, text = chars.reverse ++ more ∧ Joins units more := by
  fun_induction joinUnits units chars with
  | case1 chars =>
      cases found
      exact ⟨[], by simp, .nil⟩
  | case2 high low units chars leads trails ih =>
      have rest := List.forall_mem_cons.mp (List.forall_mem_cons.mp small).2
      obtain ⟨more, rfl, joins⟩ := ih rest.2 found
      refine ⟨_, by simp, .pair leads trails (toNat_ofNat ?_ ?_) joins⟩
      · omega
      · rw [isHighSurrogate_iff] at leads
        rw [isLowSurrogate_iff] at trails
        omega
  | case3 | case4 | case6 => cases found
  | case5 unit next units chars high low ih =>
      obtain ⟨first, rest⟩ := List.forall_mem_cons.mp small
      obtain ⟨more, rfl, joins⟩ := ih rest found
      exact ⟨_, by simp, joins_ofNat high low first joins⟩
  | case7 unit chars plain =>
      cases found
      rw [Bool.or_eq_true, not_or] at plain
      exact ⟨_, by simp, joins_ofNat plain.1 plain.2 (small unit List.mem_cons_self) .nil⟩

theorem joinUnits_of_joins {text : List Char} (joins : Joins units text) :
    joinUnits units chars = some (chars.reverse ++ text) := by
  induction joins generalizing chars with
  | nil => simp [joinUnits]
  | scalar joined ih =>
      rename_i c units cs
      obtain ⟨high, low⟩ := not_surrogate c
      cases units with
      | nil =>
          cases joined
          simp [joinUnits, high, low]
      | cons next units =>
          simp only [joinUnits, high, low]
          simp [ih]
  | pair leads trails stands joined ih =>
      simp only [joinUnits, leads, trails, if_true]
      rw [← stands, Char.ofNat_toNat, ih]
      simp

theorem decodes_joinUnits (holds : Body units body) :
    Decodes units ((joinUnits units []).map String.ofList) := by
  cases found : joinUnits units [] with
  | none =>
      intro chars joins
      rw [joinUnits_of_joins joins] at found
      cases found
  | some chars =>
      obtain ⟨more, rfl, joins⟩ := joinUnits_sound (unit_lt holds) found
      simpa [Decodes] using joins

theorem joinUnits_of_decodes {text : Option String} (holds : Body units body)
    (decodes : Decodes units text) : (joinUnits units []).map String.ofList = text := by
  cases text with
  | none =>
      cases found : joinUnits units [] with
      | none => rfl
      | some chars =>
          obtain ⟨more, -, joins⟩ := joinUnits_sound (unit_lt holds) found
          exact absurd joins (decodes more)
  | some text => simp [joinUnits_of_joins decodes]

end Strings

def Token.isNumber : Token → Bool
  | .number _ => true
  | _ => false

def Apart (first second : Token) : Prop := first.isNumber = true → second.isNumber = false

section Tokens

variable {token : Token} {spelt done : List Token} {word cs rest : List Char} {turns : Nat}

theorem readToken_sound (found : readToken cs = some (token, rest)) :
    ∃ word, cs = word ++ rest ∧ Lexeme token word := by
  unfold readToken at found
  split at found
  · cases found; exact ⟨_, rfl, .openObject⟩
  · cases found; exact ⟨_, rfl, .closeObject⟩
  · cases found; exact ⟨_, rfl, .openArray⟩
  · cases found; exact ⟨_, rfl, .closeArray⟩
  · cases found; exact ⟨_, rfl, .colon⟩
  · cases found; exact ⟨_, rfl, .comma⟩
  · cases found; exact ⟨_, rfl, .null⟩
  · cases found; exact ⟨_, rfl, .true⟩
  · cases found; exact ⟨_, rfl, .false⟩
  · obtain ⟨⟨units, after⟩, units_found, same⟩ := Option.map_eq_some_iff.mp found
    cases same
    obtain ⟨body, more, rfl, holds, rfl⟩ := readUnits_sound units_found
    exact ⟨'"' :: (body ++ ['"']), by simp, .string holds (decodes_joinUnits holds)⟩
  · obtain ⟨⟨numeral, after⟩, numeral_found, same⟩ := Option.map_eq_some_iff.mp found
    cases same
    obtain ⟨word, rfl, written⟩ := read_sound numeral_found
    exact ⟨word, rfl, .number written⟩

theorem readToken_append (lexeme : Lexeme token word)
    (stops : token.isNumber = true → Stops rest) :
    readToken (word ++ rest) = some (token, rest) := by
  cases lexeme with
  | number written =>
      have reads := read_append written (stops rfl)
      obtain ⟨c, cs, rfl, first⟩ := begins_of_written written
      rw [List.cons_append] at reads ⊢
      unfold readToken
      split
      case h_11 => rw [reads]; rfl
      all_goals
        rename_i same
        obtain rfl := (List.cons.inj same).1
        simp at first
  | string holds decodes =>
      simp [readToken, readUnits_append holds, joinUnits_of_decodes holds decodes]
  | _ => rfl

theorem begins_of_lexeme (lexeme : Lexeme token word) :
    ∃ c cs, word = c :: cs ∧ isBlank c = false ∧
      (token.isNumber = false → c.isDigit = false ∧ c ≠ '.' ∧ c ≠ 'e' ∧ c ≠ 'E') := by
  cases lexeme with
  | number written =>
      obtain ⟨c, cs, rfl, first⟩ := begins_of_written written
      refine ⟨c, cs, rfl, ?_, fun other => nomatch other⟩
      rw [Bool.eq_false_iff]
      intro blank
      simp only [isBlank, Bool.or_eq_true, beq_iff_eq] at blank
      rcases blank with ((rfl | rfl) | rfl) | rfl <;> simp at first
  | _ => exact ⟨_, _, rfl, rfl, fun _ => by decide⟩

theorem stops_of_spells (spells : Spells spelt cs)
    (other : ∀ token ∈ spelt.head?, token.isNumber = false) : Stops cs := by
  cases spells with
  | nil => simp [Stops]
  | blank blank rest =>
      rintro c first
      cases first
      simp only [isBlank, Bool.or_eq_true, beq_iff_eq] at blank
      rcases blank with ((rfl | rfl) | rfl) | rfl <;> decide
  | lexeme lexeme rest =>
      obtain ⟨c, cs, rfl, -, apart⟩ := begins_of_lexeme lexeme
      rintro d first
      cases first
      exact apart (other _ rfl)

def Covers (tokens : List Token) (cs : List Char) : Prop :=
  Spells tokens cs ∨ ∃ spelt first, tokens = spelt ++ [.junk] ∧ first <+: cs ∧ Spells spelt first

theorem Covers.grow {extra : List Char} (covers : Covers spelt rest)
    (one : ∀ {tokens cs}, Spells tokens cs → Spells (token :: tokens) (extra ++ cs)) :
    Covers (token :: spelt) (extra ++ rest) := by
  rcases covers with spells | ⟨spelt, first, rfl, before, spells⟩
  · exact Or.inl (one spells)
  · exact Or.inr ⟨token :: spelt, extra ++ first, rfl,
      (List.prefix_append_right_inj extra).mpr before, one spells⟩

theorem covers_tokensOnto (enough : cs.length ≤ turns) (done : List Token) :
    ∃ tokens, tokensOnto turns cs done = done.reverse ++ tokens ∧ Covers tokens cs := by
  induction turns generalizing cs done with
  | zero =>
      cases List.eq_nil_of_length_eq_zero (Nat.le_zero.mp enough)
      exact ⟨[], by simp [tokensOnto], Or.inl .nil⟩
  | succ turns ih =>
      cases cs with
      | nil => exact ⟨[], by simp [tokensOnto], Or.inl .nil⟩
      | cons c cs =>
          unfold tokensOnto
          split
          · rename_i blank
            obtain ⟨tokens, same, covers⟩ := ih (Nat.le_of_succ_le_succ enough) done
            refine ⟨tokens, same, ?_⟩
            rcases covers with spells | ⟨spelt, first, rfl, before, spells⟩
            · exact Or.inl (.blank blank spells)
            · exact Or.inr ⟨spelt, c :: first, rfl, List.cons_prefix_cons.mpr ⟨rfl, before⟩,
                .blank blank spells⟩
          · split
            · rename_i token rest found
              obtain ⟨word, splits, lexeme⟩ := readToken_sound found
              obtain ⟨first, more, rfl, -, -⟩ := begins_of_lexeme lexeme
              have shorter : rest.length ≤ turns := by
                rw [splits] at enough
                simp at enough
                omega
              obtain ⟨tokens, same, covers⟩ := ih shorter (token :: done)
              refine ⟨token :: tokens, by simp [same], ?_⟩
              rw [splits]
              exact covers.grow fun spells => .lexeme lexeme spells
            · exact ⟨[.junk], by simp, Or.inr ⟨[], [], rfl, List.nil_prefix, .nil⟩⟩

theorem tokensOnto_of_spells (spells : Spells spelt cs) (apart : spelt.IsChain Apart)
    (enough : cs.length ≤ turns) : tokensOnto turns cs done = done.reverse ++ spelt := by
  -- A number ends where it was meant to only because no other number follows it.
  induction spells generalizing turns done with
  | nil => cases turns <;> simp [tokensOnto]
  | blank blank rest ih =>
      cases turns with
      | zero => cases enough
      | succ turns =>
          rw [tokensOnto, if_pos blank]
          exact ih apart (Nat.le_of_succ_le_succ enough)
  | lexeme lexeme rest ih =>
      rename_i token spelt word cs
      have reads : readToken (word ++ cs) = some (token, cs) :=
        readToken_append lexeme fun number => stops_of_spells rest fun next first => by
          cases spelt with
          | nil => cases first
          | cons =>
              cases first
              exact (List.isChain_cons_cons.mp apart).1 number
      obtain ⟨c, more, rfl, blank, -⟩ := begins_of_lexeme lexeme
      cases turns with
      | zero => simp at enough
      | succ turns =>
          rw [List.cons_append] at reads ⊢
          rw [tokensOnto, blank, if_neg Bool.false_ne_true, reads]
          dsimp only
          rw [ih apart.tail (by simp at enough; omega)]
          simp

theorem covers_tokens (text : String) : Covers (tokens text) text.toList := by
  obtain ⟨found, same, covers⟩ := covers_tokensOnto (Nat.le_refl text.toList.length) []
  have same : tokens text = found := same
  rwa [same]

theorem spells_of_covers (covers : Covers spelt cs) (clean : .junk ∉ spelt) : Spells spelt cs := by
  rcases covers with spells | ⟨spelt, first, rfl, -, -⟩
  · exact spells
  · exact absurd (List.mem_append_right _ List.mem_cons_self) clean

theorem tokens_of_spells {text : String} (spells : Spells spelt text.toList)
    (apart : spelt.IsChain Apart) : tokens text = spelt :=
  tokensOnto_of_spells spells apart (Nat.le_refl _)

end Tokens

end HandlePool.Json
