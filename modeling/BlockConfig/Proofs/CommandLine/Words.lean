/-
BlockConfig.Proofs.CommandLine.Words — the ways to write an option, and
what kind of word the reader takes each of them for.

An option with a value may be written in one word or in two, under its
name or under its letter (`Opt.Spells`); a switch is written under either
(`Opt.Shows`). The side conditions are the grammar and not decoration. A
value in a word of its own must not look like an option
(`Word.ofChars … = .plain`), and a value right behind a letter must be
there and must not begin with an equals sign, which would be taken off.
Attached to the name, every value can be written.

None of these words can be read as a command word, because each begins
with a dash and no command word does (`Scan.turn_of_dash`).
-/
import BlockConfig.CommandLine.Scan

namespace BlockConfig.CommandLine

/-! ## 1. Kinds of words -/

namespace Word

theorem ofChars_two_dashes {cs : List Char} (h : cs ≠ []) :
    ofChars ('-' :: '-' :: cs)
      = match Assignment.cutAtEquals cs with
        | none => .long (String.ofList cs) none
        | some (name, value) => .long (String.ofList name) (some (String.ofList value)) := by
  cases cs with
  | nil => exact absurd rfl h
  | cons c cs => rfl

theorem ofChars_name {name : String} (hne : name ≠ "") (hplain : '=' ∉ name.toList) :
    ofChars ("--" ++ name).toList = .long name none := by
  have hcut : Assignment.cutAtEquals name.toList = none := by
    cases h : Assignment.cutAtEquals name.toList with
    | none => rfl
    | some parts =>
      refine absurd ?_ hplain
      rw [(Assignment.cutAtEquals_eq_some h).1]
      simp
  have hchars : name.toList ≠ [] := fun h => hne (String.toList_eq_nil_iff.1 h)
  simp [String.toList_append, ofChars_two_dashes hchars, hcut]

theorem ofChars_attached {name : String} (hplain : '=' ∉ name.toList) (raw : String) :
    ofChars ("--" ++ name ++ "=" ++ raw).toList = .long name (some raw) := by
  have hcut : Assignment.cutAtEquals (name.toList ++ '=' :: raw.toList)
      = some (name.toList, raw.toList) := Assignment.cutAtEquals_append hplain
  have hchars : name.toList ++ '=' :: raw.toList ≠ [] := by simp
  simp [String.toList_append, ofChars_two_dashes hchars, hcut]

theorem ofChars_letters {c : Char} (hc : c ≠ '-') (rest : List Char) :
    ofChars ('-' :: c :: rest) = .letters (c :: rest) := by
  unfold ofChars
  split <;> simp_all

end Word

/-! ## 2. Spellings -/

namespace Opt

/-- An option under its letter. -/
def dashed (c : Char) : String := "-" ++ String.singleton c

/-- The ways to write an option with its value. -/
inductive Spells (o : Opt) (raw : String) : List String → Prop
  | attached : Spells o raw [o.attach raw]
  | apart (hraw : Word.ofChars raw.toList = .plain) : Spells o raw ["--" ++ o.name, raw]
  | letter {c : Char} (hc : o.letter? = some c) (hraw : Word.ofChars raw.toList = .plain) :
      Spells o raw [dashed c, raw]
  | joined {c : Char} (hc : o.letter? = some c) (hne : raw ≠ "")
      (hraw : raw.toList.head? ≠ some '=') : Spells o raw [dashed c ++ raw]
  | equals {c : Char} (hc : o.letter? = some c) : Spells o raw [dashed c ++ "=" ++ raw]

/-- The ways to write a switch. -/
inductive Shows (o : Opt) : String → Prop
  | long : Shows o ("--" ++ o.name)
  | letter {c : Char} (hc : o.letter? = some c) : Shows o (dashed c)

theorem name_ne_empty (o : Opt) : o.name ≠ "" := by
  cases o <;> decide

theorem equals_not_mem_name (o : Opt) : '=' ∉ o.name.toList := by
  cases o <;> decide

theorem name_injective {o p : Opt} (h : o.name = p.name) : o = p := by
  cases o <;> cases p <;> first | rfl | exact absurd h (by decide)

theorem eq_of_letter? {o p : Opt} {c : Char} (ho : o.letter? = some c)
    (hp : p.letter? = some c) : o = p := by
  cases o <;> cases ho <;> cases p <;> first | rfl | exact absurd hp (by decide)

theorem ne_dash_of_letter? {o : Opt} {c : Char} (h : o.letter? = some c) : c ≠ '-' := by
  cases o <;> cases h <;> decide

theorem attach_toList (o : Opt) (raw : String) :
    (o.attach raw).toList = '-' :: '-' :: (o.name.toList ++ '=' :: raw.toList) := by
  simp [attach, String.toList_append]

theorem named_toList (o : Opt) : ("--" ++ o.name).toList = '-' :: '-' :: o.name.toList := by
  simp [String.toList_append]

theorem dashed_append_toList (c : Char) (rest : String) :
    (dashed c ++ rest).toList = '-' :: c :: rest.toList := by
  simp [dashed, String.toList_append]

theorem dashed_toList (c : Char) : (dashed c).toList = ['-', c] := by
  simp [dashed]

end Opt

/-! ## 3. Finding options -/

/-- A search stops at the only member that passes. -/
theorem find?_eq_some_of_unique {α : Type} {p : α → Bool} {a : α} {l : List α} (ha : a ∈ l)
    (hp : p a = true) (huniq : ∀ b, p b = true → b = a) : l.find? p = some a := by
  cases h : l.find? p with
  | none => exact absurd hp (List.find?_eq_none.1 h a ha)
  | some b => rw [huniq b (List.find?_some h)]

namespace Level

theorem named?_name {l : Level} {o : Opt} (ho : o ∈ l.options) : l.named? o.name = some o := by
  refine find?_eq_some_of_unique ho (by simp) fun p hp => ?_
  exact Opt.name_injective (by simpa using hp)

theorem lettered?_letter {l : Level} {o : Opt} {c : Char} (ho : o ∈ l.options)
    (hc : o.letter? = some c) : l.lettered? c = some o := by
  refine find?_eq_some_of_unique ho (by simpa using hc) fun p hp => ?_
  exact Opt.eq_of_letter? (by simpa using hp) hc

end Level

/-! ## 4. Command words -/

theorem Verb.name_head? (v : Verb) : v.name.toList.head? ≠ some '-' := by
  cases v <;> decide

/-- A word that begins with a dash is no command word. -/
theorem Scan.turn_of_dash {s : Scan} {raw : String} {cs : List Char}
    (h : raw.toList = '-' :: cs) : s.turn raw = .stay := by
  have hverb : Verb.ofName? raw = none := by
    refine List.find?_eq_none.2 fun v _ hv => v.name_head? ?_
    rw [of_decide_eq_true hv, h]
    rfl
  have hhelp : raw ≠ helpWord := by
    rintro rfl
    have hhead : helpWord.toList.head? = some '-' := congrArg List.head? h
    exact absurd hhead (by decide)
  unfold Scan.turn
  rw [hverb, if_neg hhelp]
  split <;> rfl

/-- Where a value is waited for, and behind `--`, every word is taken as
it stands. -/
theorem Scan.turn_of_not_mayTurn {s : Scan} (h : s.mayTurn = false) (raw : String) :
    s.turn raw = .stay := by
  rw [Scan.turn, h, if_neg Bool.false_ne_true]

end BlockConfig.CommandLine
