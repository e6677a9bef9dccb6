/-
BlockConfig.Key — keys, their segments, and the scopes that block names
open.

A key is a list of non-empty segments written with `:` between them:
`detector:threshold` lies in the block `detector`. Three things are said
here and nowhere else.

* What a key is: `Key.segments` cuts a text, `Key.ofSegments` writes one
  back, and `Key.fault?` says what keeps a text from being a key.
* What a block name opens: `Key.scopeOf` is the text that stands in front
  of every key of the block, so that being in a block is having that text
  in front (`Key.within?`). The scope of a non-empty name ends with the
  separator, which is why `bb:k` is not in the block `b`.
* How names nest: `Key.nest a b` names the block `b` of the block `a`.

Main statements: cutting loses nothing (`ofSegments_segments`), a key is
within a scope exactly when it is the scope followed by something
(`within?_eq_some_iff`), and scopes of nested names follow one another
(`scopeOf_nest`).

Everything is defined through the list of characters of a text, so that
each function is an ordinary recursion with its own equations.
-/

namespace BlockConfig

/-- What keeps a text from being a key. -/
inductive KeyFault
  /-- There is no text at all. -/
  | empty
  /-- Some segment is empty: a separator stands first, last, or next to
  another one. -/
  | emptySegment
  /-- A fault that a caller found by a rule of its own, in its words. -/
  | stated (reason : String)
deriving DecidableEq

def KeyFault.reason : KeyFault → String
  | .empty => "key cannot be empty"
  | .emptySegment => "key cannot contain an empty segment around ':'"
  | .stated reason => reason

namespace Key

def separator : Char := ':'

def separatorText : String := String.singleton separator

/-- The key kept for a value that applies everywhere rather than in one
block. It is a key like any other; callers decide what it means. -/
def globalName : String := "_global"

/-! ## 1. Segments -/

/-- The pieces between the separators. There is always at least one piece,
and a separator at an end or beside another one leaves an empty piece. -/
def cut : List Char → List (List Char)
  | [] => [[]]
  | c :: rest => if c = separator then [] :: cut rest else (cut rest).modifyHead (c :: ·)

/-- The segments of a text, from the outermost block inwards. -/
def segments (key : String) : List String :=
  (cut key.toList).map String.ofList

/-- The segments written one after another with the separator between
them. -/
def ofSegments : List String → String
  | [] => ""
  | [segment] => segment
  | segment :: next :: rest => segment ++ separatorText ++ ofSegments (next :: rest)

theorem cut_ne_nil (cs : List Char) : cut cs ≠ [] := by
  cases cs with
  | nil => simp [cut]
  | cons c rest =>
    by_cases hc : c = separator
    · simp [cut, hc]
    · simpa [cut, hc] using cut_ne_nil rest

theorem segments_ne_nil (key : String) : segments key ≠ [] := by
  simp [segments, cut_ne_nil]

@[simp] theorem ofSegments_nil : ofSegments [] = "" := rfl

@[simp] theorem ofSegments_singleton (segment : String) : ofSegments [segment] = segment := rfl

theorem ofSegments_cons (segment : String) {rest : List String} (h : rest ≠ []) :
    ofSegments (segment :: rest) = segment ++ separatorText ++ ofSegments rest := by
  cases rest with
  | nil => exact absurd rfl h
  | cons next rest => rfl

/-- Cutting loses nothing: the segments give the text back. -/
theorem ofSegments_segments (key : String) : ofSegments (segments key) = key := by
  have aux : ∀ cs : List Char,
      (ofSegments ((cut cs).map String.ofList)).toList = cs := by
    intro cs
    induction cs with
    | nil => simp [cut]
    | cons c rest ih =>
      by_cases hc : c = separator
      · rw [cut, if_pos hc, List.map_cons, ofSegments_cons _ (by simp [cut_ne_nil])]
        simp [String.toList_append, ih, separatorText, hc]
      · rw [cut, if_neg hc]
        cases hr : cut rest with
        | nil => exact absurd hr (cut_ne_nil rest)
        | cons piece pieces =>
          rw [hr] at ih
          cases pieces with
          | nil => simpa using ih
          | cons piece' pieces =>
            simp only [List.modifyHead_cons, List.map_cons,
              ofSegments_cons _ (List.cons_ne_nil _ _), String.toList_append,
              String.toList_ofList, List.cons_append] at ih ⊢
            rw [ih]
  exact String.ext (aux key.toList)

/-! ## 2. Which texts are keys -/

/-- What keeps a text from being a key, if anything does. -/
def fault? (key : String) : Option KeyFault :=
  if key = "" then some .empty
  else if (segments key).any (· = "") then some .emptySegment
  else none

/-- A text is a key when nothing is wrong with it. -/
def Valid (key : String) : Prop := fault? key = none

instance (key : String) : Decidable (Valid key) := inferInstanceAs (Decidable (_ = none))

/-! ## 3. Scopes -/

/-- The text in front of every key of the named block. The empty name
stands for the whole. -/
def scopeOf (name : String) : String :=
  if name = "" then "" else name ++ separatorText

/-- The name of the block `inner` of the block `outer`. -/
def nest (outer inner : String) : String :=
  if outer = "" then inner
  else if inner = "" then outer
  else outer ++ separatorText ++ inner

/-- What follows a leading text, if the text leads. -/
def afterLead : (lead all : List Char) → Option (List Char)
  | [], all => some all
  | _ :: _, [] => none
  | c :: lead, d :: all => if c = d then afterLead lead all else none

/-- A key relative to a scope: what follows the scope, provided that
something does. -/
def within? (scope key : String) : Option String :=
  match afterLead scope.toList key.toList with
  | some (c :: rest) => some (String.ofList (c :: rest))
  | _ => none

/-- The block that a scope belongs to: the scope without the separator at
its end. The whole has no block name. -/
def blockOf? (scope : String) : Option String :=
  if scope.toList.getLast? = some separator then some (String.ofList scope.toList.dropLast)
  else none

@[simp] theorem scopeOf_empty : scopeOf "" = "" := rfl

theorem scopeOf_of_ne {name : String} (h : name ≠ "") :
    scopeOf name = name ++ separatorText := if_neg h

@[simp] theorem nest_empty_left (name : String) : nest "" name = name := rfl

@[simp] theorem nest_empty_right (name : String) : nest name "" = name := by
  by_cases h : name = "" <;> simp [nest, h]

/-- The scope of a nested name is the outer scope, then the inner one. -/
theorem scopeOf_nest (outer inner : String) :
    scopeOf (nest outer inner) = scopeOf outer ++ scopeOf inner := by
  by_cases ho : outer = ""
  · simp [ho]
  by_cases hi : inner = ""
  · simp [hi]
  have hne : outer ++ separatorText ++ inner ≠ "" := by
    intro h
    have := congrArg String.toList h
    simp [String.toList_append, separatorText] at this
  rw [nest, if_neg ho, if_neg hi, scopeOf_of_ne hne, scopeOf_of_ne ho, scopeOf_of_ne hi]
  simp [String.append_assoc]

theorem afterLead_eq_some_iff {lead all rest : List Char} :
    afterLead lead all = some rest ↔ all = lead ++ rest := by
  induction lead generalizing all with
  | nil => simp [afterLead]
  | cons c lead ih =>
    cases all with
    | nil => simp [afterLead]
    | cons d all =>
      by_cases h : c = d
      · simp [afterLead, h, ih]
      · simp [afterLead, h, Ne.symm h]

/-- A key lies within a scope exactly when it is the scope with something
after it, and that something is the relative key. -/
theorem within?_eq_some_iff {scope key rest : String} :
    within? scope key = some rest ↔ key = scope ++ rest ∧ rest ≠ "" := by
  unfold within?
  constructor
  · intro h
    split at h
    · next c cs hp =>
      rw [afterLead_eq_some_iff] at hp
      obtain rfl := (Option.some.inj h).symm
      refine ⟨String.ext ?_, ?_⟩
      · simpa [String.toList_append] using hp
      · intro h0
        have := congrArg String.toList h0
        simp at this
    · exact absurd h (by simp)
  · rintro ⟨rfl, hne⟩
    have hp : afterLead scope.toList (scope ++ rest).toList = some rest.toList :=
      afterLead_eq_some_iff.2 String.toList_append
    cases hr : rest.toList with
    | nil => exact absurd (String.toList_eq_nil_iff.1 hr) hne
    | cons c cs =>
      rw [hp, hr]
      simp only [← hr, String.ofList_toList]

/-! ## 4. Samples -/

example : segments "a:b:" = ["a", "b", ""] ∧ segments "" = [""] := by decide

example : fault? "" = some .empty ∧ fault? "a::b" = some .emptySegment ∧ fault? "a:b" = none := by
  decide

example : within? "b:" "b:k" = some "k" ∧ within? "b:" "bb:k" = none ∧ within? "b:" "b:" = none := by
  decide

end Key

end BlockConfig
