import HandlePool.Proofs.Reading

namespace HandlePool

namespace Json

theorem body_escape (c : Char) {units : List Nat} {cs : List Char} (rest : Body units cs) :
    Body (c.toNat :: units) (escape c ++ cs) := by
  have control : ∀ n < 32, hexUnit? '0' '0' (hexDigit (n / 16)) (hexDigit n) = some n := by decide
  unfold escape
  split
  case h_8 quote slash _ _ _ _ _ =>
    split
    · rename_i small
      exact .long (control _ small) rest
    · rename_i large
      exact .plain (Nat.le_of_not_lt large) quote slash rest
  all_goals exact .short rfl rest

theorem body_escapes (cs : List Char) : Body (cs.map Char.toNat) (cs.flatMap escape) := by
  induction cs with
  | nil => exact .nil
  | cons c cs ih => exact body_escape c ih

theorem joins_toNat (cs : List Char) : Joins (cs.map Char.toNat) cs := by
  induction cs with
  | nil => exact .nil
  | cons c cs ih => exact .scalar ih

theorem lexeme_stringText (text : String) :
    Lexeme (.string (some text)) (stringText text).toList := by
  have same : (stringText text).toList = '"' :: (text.toList.flatMap escape ++ ['"']) := by
    simp [stringText]
  rw [same]
  exact .string (body_escapes text.toList) (joins_toNat text.toList)

theorem lexeme_boolText (value : Bool) : Lexeme (.bool value) (boolText value).toList := by
  cases value with
  | false => exact .false
  | true => exact .true

end Json

namespace Limits

open HandlePool.Json

theorem lexeme_sizeToken (value : UInt64) :
    Lexeme (sizeToken value) (Nat.repr value.toNat).toList := by
  have unsigned : Unsigned ⟨false, Nat.toDigits 10 value.toNat, [], none⟩
      (Nat.toDigits 10 value.toNat ++ ([] ++ [])) := .intro (whole_toDigits _) .none .none
  rw [Nat.toList_repr]
  simp only [List.append_nil] at unsigned
  exact .number (.positive rfl unsigned)

def canonicalText (limits : Limits) : String :=
  "\x7b\"max_idle\":" ++ Nat.repr limits.maxIdle.toNat ++ ",\"max_active\":" ++
    Nat.repr limits.maxActive.toNat ++ ",\"wait\":" ++ (if limits.wait then "true" else "false") ++
    "\x7d"

theorem text_eq (limits : Limits) : limits.text = limits.canonicalText := by
  have written : limits.text = "\x7b" ++ ",".intercalate [
      stringText "max_idle" ++ ":" ++ Nat.repr limits.maxIdle.toNat,
      stringText "max_active" ++ ":" ++ Nat.repr limits.maxActive.toNat,
      stringText "wait" ++ ":" ++ boolText limits.wait] ++ "\x7d" := rfl
  have idle : "\x7b\"max_idle\":" = "\x7b" ++ (stringText "max_idle" ++ ":") := by decide +kernel
  have active : ",\"max_active\":" = "," ++ (stringText "max_active" ++ ":") := by decide +kernel
  have wait : ",\"wait\":" = "," ++ (stringText "wait" ++ ":") := by decide +kernel
  rw [written]
  unfold canonicalText
  rw [idle, active, wait]
  simp only [String.intercalate_cons_cons, String.intercalate_singleton, String.append_assoc,
    boolText]

def members (limits : Limits) : List (String × List Token) :=
  [("max_idle", [sizeToken limits.maxIdle]), ("max_active", [sizeToken limits.maxActive]),
   ("wait", [.bool limits.wait])]

def isOwn (member : String × List Token) : Bool :=
  ["max_idle", "max_active", "wait"].contains member.1

/-- The ways to lay limits out: their members in any order, with any other members among them, or
their values alone. -/
inductive LaysOut (limits : Limits) : List Token → Prop where
  | object {members} (own : (members.filter isOwn).Perm limits.members)
      (others : ∀ member ∈ members, isOwn member = false → Forms .value member.2) :
      LaysOut limits (.openObject :: (membersTokens members ++ [.closeObject]))
  | array : LaysOut limits [.openArray, sizeToken limits.maxIdle, .comma,
      sizeToken limits.maxActive, .comma, .bool limits.wait, .closeArray]

theorem spells_text (limits : Limits) :
    Spells (.openObject :: (membersTokens limits.members ++ [.closeObject]))
      limits.text.toList := by
  have same : limits.text.toList = ['\x7b'] ++ ((stringText "max_idle").toList ++ ([':'] ++
      ((Nat.repr limits.maxIdle.toNat).toList ++ ([','] ++ ((stringText "max_active").toList ++
      ([':'] ++ ((Nat.repr limits.maxActive.toNat).toList ++ ([','] ++
      ((stringText "wait").toList ++ ([':'] ++ ((boolText limits.wait).toList ++
      (['\x7d'] ++ [])))))))))))) := by
    simp [text, toValue, Value.text, Value.fieldTexts, Value.natural, integerText]
  rw [same]
  exact .lexeme .openObject <| .lexeme (lexeme_stringText _) <| .lexeme .colon <|
    .lexeme (lexeme_sizeToken _) <| .lexeme .comma <| .lexeme (lexeme_stringText _) <|
    .lexeme .colon <| .lexeme (lexeme_sizeToken _) <| .lexeme .comma <|
    .lexeme (lexeme_stringText _) <| .lexeme .colon <| .lexeme (lexeme_boolText _) <|
    .lexeme .closeObject .nil

theorem denotes_of_laysOut {limits : Limits} {tokens : List Token}
    (laysOut : limits.LaysOut tokens) : Denotes tokens limits := by
  cases laysOut with
  | array => exact .allElements limits.maxIdle limits.maxActive limits.wait
  | object own others =>
      rename_i members
      have given {key : String} {token : Token} (known : isOwn (key, []) = true)
          (once : limits.members.filter (·.1 == key) = [(key, [token])]) :
          valuesOf key members = [[token]] := by
        have kept : members.filter (·.1 == key) =
            (members.filter isOwn).filter (·.1 == key) := by
          rw [List.filter_filter]
          refine List.filter_congr fun member _ => ?_
          cases same : member.1 == key with
          | false => rfl
          | true =>
              have known : isOwn member = true := by
                rwa [isOwn, beq_iff_eq.mp same]
              rw [known]
              rfl
        have one := own.filter (·.1 == key)
        rw [← kept, once, List.perm_singleton] at one
        rw [valuesOf, one]
        rfl
      exact .object ⟨Or.inl (given rfl rfl), Or.inl (given rfl rfl), Or.inl (given rfl rfl),
        fun key value member apart => others _ member (by simpa [isOwn] using apart)⟩

theorem laysOut_members (limits : Limits) :
    limits.LaysOut (.openObject :: (membersTokens limits.members ++ [.closeObject])) := by
  have own : limits.members.filter isOwn = limits.members := rfl
  refine .object (own ▸ .refl _) fun member here apart => ?_
  rw [← own] at here
  rw [(List.mem_filter.mp here).2] at apart
  cases apart

/-- Limits are read back from the text they are written in, no two are written alike, every other
way to lay them out reads as the same limits, and what is read of any text is written again in the
one canonical form. -/
theorem survive_text (limits : Limits) :
    read limits.text = .ok limits ∧
      (∀ other : Limits, other.text = limits.text → other = limits) ∧
      (∀ tokens text, limits.LaysOut tokens → Spells tokens text.toList →
        read text = .ok limits) ∧
      ∀ text, Written text limits → (read text).map Limits.text = .ok limits.canonicalText := by
  have back (limits : Limits) : read limits.text = .ok limits :=
    read_of_written ⟨_, spells_text limits, denotes_of_laysOut limits.laysOut_members⟩
  refine ⟨back limits, fun other same => ?_, fun tokens text laysOut spells => ?_,
    fun text written => ?_⟩
  · have read := back other
    rw [same, back limits] at read
    exact (Except.ok.inj read).symm
  · exact read_of_written ⟨tokens, spells, denotes_of_laysOut laysOut⟩
  · rw [read_of_written written, ← text_eq]
    rfl

example : read "\x7b\"wait\":true, \"x\":[-1e9,\x7b\x7d], \"max_active\":0,\"max_idle\":7\x7d" =
    .ok { maxIdle := 7, wait := true } := by decide +kernel

end Limits

end HandlePool
