/-
BlockConfig.Proofs.Path.Basic — paths: keys as lists of segments.

A key is a text; what it means is a path. A `Segment` is a text that is
not empty and holds no separator, a `Path` is a non-empty list of them,
and a `Block` is any list of them, the empty one being the whole. Being
below a block is here a matter of lists: the block stands in front.

Texts and paths are tied by two facts, and the rest follows.

* `Path.ofText?_eq_some_iff` — reading a text as a path and writing a path
  as a text are inverse. So a path has one text only, and a text that is
  no key has no path.
* `Path.text_under` — the text of a path below a block is the scope of the
  block, then the text of the path.

Paths are ordered as their texts are. That is not the order of the lists:
`["a", "z"]` comes after `["a!", "b"]`, because `!` comes before the
separator.
-/
import Mathlib.Data.String.Basic
import BlockConfig.Proofs.Key.Names

namespace BlockConfig

/-! ## 1. Segments -/

/-- A text that can stand between separators. -/
structure Segment where
  text : String
  ne_empty : text ≠ ""
  plain : Key.separator ∉ text.toList
deriving DecidableEq

namespace Segment

def ofText? (text : String) : Option Segment :=
  if h : text ≠ "" ∧ Key.separator ∉ text.toList then some ⟨text, h.1, h.2⟩ else none

def ofTexts? : List String → Option (List Segment)
  | [] => some []
  | text :: rest =>
    match ofText? text, ofTexts? rest with
    | some s, some segments => some (s :: segments)
    | _, _ => none

theorem ofText?_eq_some_iff {text : String} {s : Segment} :
    ofText? text = some s ↔ s.text = text := by
  obtain ⟨t, hne, hplain⟩ := s
  unfold ofText?
  constructor
  · intro h
    split at h
    · simp only [Option.some.injEq, mk.injEq] at h
      exact h.symm
    · cases h
  · rintro rfl
    rw [dif_pos ⟨hne, hplain⟩]

theorem ofTexts?_eq_some_iff {texts : List String} {segments : List Segment} :
    ofTexts? texts = some segments ↔ segments.map text = texts := by
  induction texts generalizing segments with
  | nil =>
    rw [ofTexts?, List.map_eq_nil_iff, Option.some.injEq]
    exact eq_comm
  | cons t rest ih =>
    constructor
    · intro h
      rw [ofTexts?] at h
      split at h
      · next s more hs hmore =>
        obtain rfl := Option.some.inj h
        rw [List.map_cons, ofText?_eq_some_iff.1 hs, ih.1 hmore]
      · cases h
    · intro h
      cases segments with
      | nil => cases h
      | cons s more =>
        rw [List.map_cons, List.cons.injEq] at h
        rw [ofTexts?, ofText?_eq_some_iff.2 h.1, ih.2 h.2]

/-- Texts can be read when none is empty and none holds a separator. -/
theorem ofTexts?_isSome {texts : List String}
    (h : ∀ t ∈ texts, t ≠ "" ∧ Key.separator ∉ t.toList) :
    ∃ segments, ofTexts? texts = some segments := by
  induction texts with
  | nil => exact ⟨[], rfl⟩
  | cons t rest ih =>
    obtain ⟨more, hmore⟩ := ih fun u hu => h u (List.mem_cons_of_mem t hu)
    obtain ⟨hne, hplain⟩ := h t List.mem_cons_self
    refine ⟨⟨t, hne, hplain⟩ :: more, ?_⟩
    rw [ofTexts?_eq_some_iff] at hmore ⊢
    rw [List.map_cons, hmore]

theorem plain_of_mem_map {segments : List Segment} {t : String} (h : t ∈ segments.map text) :
    Key.separator ∉ t.toList := by
  obtain ⟨s, -, rfl⟩ := List.mem_map.1 h
  exact s.plain

end Segment

/-! ## 2. Blocks and paths -/

/-- The way to a block. The empty one is the way to the whole. -/
abbrev Block := List Segment

/-- The way to a value: at least one segment. -/
structure Path where
  segments : List Segment
  ne_nil : segments ≠ []

namespace Block

/-- The name of a block. -/
def name (b : Block) : String := Key.ofSegments (b.map Segment.text)

/-- The text in front of every key of a block. -/
def scope (b : Block) : String := Key.scopeOf (name b)

/-- Read the name of a block. -/
def ofName? (name : String) : Option Block :=
  if name = "" then some [] else Segment.ofTexts? (Key.segments name)

end Block

namespace Path

/-- The key that a path is written as. -/
def text (p : Path) : String := Key.ofSegments (p.segments.map Segment.text)

/-- The path that a key is read as. -/
def ofText? (key : String) : Option Path :=
  match Segment.ofTexts? (Key.segments key) with
  | some (s :: rest) => some ⟨s :: rest, List.cons_ne_nil s rest⟩
  | _ => none

/-- A path below a block. -/
def under (b : Block) (p : Path) : Path :=
  ⟨b ++ p.segments, List.append_ne_nil_of_right_ne_nil b p.ne_nil⟩

/-- A path relative to a block that it is strictly below. -/
def below? (b : Block) (p : Path) : Option Path :=
  if h : b <+: p.segments ∧ p.segments.drop b.length ≠ [] then
    some ⟨p.segments.drop b.length, h.2⟩
  else none

/-! ### Texts of paths -/

theorem segments_text (p : Path) : Key.segments p.text = p.segments.map Segment.text :=
  Key.segments_ofSegments (by simpa using p.ne_nil) fun _ h => Segment.plain_of_mem_map h

/-- Reading and writing are inverse. -/
theorem ofText?_eq_some_iff {key : String} {p : Path} : ofText? key = some p ↔ p.text = key := by
  constructor
  · intro h
    unfold ofText? at h
    split at h
    · next s rest hs =>
      obtain rfl := Option.some.inj h
      show Key.ofSegments ((s :: rest).map Segment.text) = key
      rw [Segment.ofTexts?_eq_some_iff.1 hs, Key.ofSegments_segments]
    · cases h
  · rintro rfl
    have hs : Segment.ofTexts? (Key.segments p.text) = some p.segments :=
      Segment.ofTexts?_eq_some_iff.2 p.segments_text.symm
    obtain ⟨segments, hne⟩ := p
    cases segments with
    | nil => exact absurd rfl hne
    | cons s rest => rw [ofText?, hs]

@[simp] theorem ofText?_text (p : Path) : ofText? p.text = some p := ofText?_eq_some_iff.2 rfl

theorem text_injective : Function.Injective text := by
  intro p q h
  have hq := ofText?_text q
  rw [← h, ofText?_text] at hq
  exact Option.some.inj hq

theorem valid_text (p : Path) : Key.Valid p.text := by
  rw [Key.valid_iff, segments_text]
  intro t ht
  obtain ⟨s, -, rfl⟩ := List.mem_map.1 ht
  exact s.ne_empty

/-- The keys are the texts of paths. -/
theorem exists_text_eq_iff {key : String} : (∃ p : Path, p.text = key) ↔ Key.Valid key := by
  constructor
  · rintro ⟨p, rfl⟩
    exact p.valid_text
  · intro h
    rw [Key.valid_iff] at h
    obtain ⟨segments, hs⟩ := Segment.ofTexts?_isSome fun t ht =>
      ⟨h t ht, Key.separator_not_mem_of_mem_segments ht⟩
    rw [Segment.ofTexts?_eq_some_iff] at hs
    refine ⟨⟨segments, ?_⟩, ?_⟩
    · rintro rfl
      exact Key.segments_ne_nil key hs.symm
    · show Key.ofSegments (segments.map Segment.text) = key
      rw [hs, Key.ofSegments_segments]

theorem ofText?_eq_none_iff {key : String} : ofText? key = none ↔ ¬ Key.Valid key := by
  rw [← exists_text_eq_iff, not_exists, Option.eq_none_iff_forall_ne_some]
  simp only [ne_eq, ofText?_eq_some_iff]

theorem ofText?_empty : ofText? "" = none := ofText?_eq_none_iff.2 (by decide)

/-! ### Below a block -/

@[simp] theorem segments_under (b : Block) (p : Path) :
    (p.under b).segments = b ++ p.segments := rfl

theorem under_injective (b : Block) : Function.Injective (under b) := by
  rintro ⟨p, hp⟩ ⟨q, hq⟩ h
  have hpq : b ++ p = b ++ q := congrArg segments h
  obtain rfl := List.append_cancel_left hpq
  rfl

theorem below?_eq_some_iff {b : Block} {p q : Path} : p.below? b = some q ↔ q.under b = p := by
  obtain ⟨segments, hne⟩ := p
  obtain ⟨rest, hrest⟩ := q
  unfold below?
  constructor
  · intro h
    split at h
    · next hb =>
      obtain ⟨more, rfl⟩ := hb.1
      obtain rfl : more = rest := by simpa using h
      rfl
    · cases h
  · intro h
    obtain rfl : b ++ rest = segments := congrArg Path.segments h
    have hb : b <+: b ++ rest ∧ (b ++ rest).drop b.length ≠ [] := by simpa using hrest
    rw [dif_pos hb]
    simp

@[simp] theorem below?_under (b : Block) (p : Path) : (p.under b).below? b = some p :=
  below?_eq_some_iff.2 rfl

/-- What is strictly below a block is so in one way. -/
theorem below?_injective (b : Block) (p q r : Path) (hp : r ∈ p.below? b)
    (hq : r ∈ q.below? b) : p = q :=
  (below?_eq_some_iff.1 hp).symm.trans (below?_eq_some_iff.1 hq)

theorem text_under (b : Block) (p : Path) : (p.under b).text = Block.scope b ++ p.text := by
  cases b with
  | nil => rfl
  | cons s b =>
    have hp : p.segments.map Segment.text ≠ [] := by simpa using p.ne_nil
    have hname : Block.name (s :: b) ≠ "" := by
      have hvalid := (Path.mk (s :: b) (List.cons_ne_nil s b)).valid_text
      exact hvalid.ne_empty
    rw [Block.scope, Key.scopeOf_of_ne hname, text, segments_under, List.map_append,
      Key.ofSegments_append (by simp) hp]
    rfl

/-- A text below a block is read as the relative text is. -/
theorem ofText?_scope_append (b : Block) (key : String) :
    ofText? (Block.scope b ++ key) = (ofText? key).map (under b) := by
  cases hk : ofText? key with
  | some p =>
    obtain rfl := ofText?_eq_some_iff.1 hk
    rw [← text_under, ofText?_text]
    rfl
  | none =>
    rw [ofText?_eq_none_iff] at hk
    rw [Option.map_none, ofText?_eq_none_iff, Block.scope, Key.valid_scopeOf_append]
    exact fun h => hk h.2

/-- Taking the scope off the text is taking the block off the path. -/
theorem within?_text (b : Block) (p : Path) :
    Key.within? (Block.scope b) p.text = (p.below? b).map text := by
  cases hb : p.below? b with
  | some q =>
    obtain rfl := below?_eq_some_iff.1 hb
    rw [Option.map_some, Key.within?_eq_some_iff]
    exact ⟨text_under b q, q.valid_text.ne_empty⟩
  | none =>
    rw [Option.map_none, Option.eq_none_iff_forall_ne_some]
    intro rest hrest
    obtain ⟨htext, -⟩ := Key.within?_eq_some_iff.1 hrest
    have hvalid : Key.Valid rest := by
      have hp := p.valid_text
      rw [htext, Block.scope, Key.valid_scopeOf_append] at hp
      exact hp.2
    obtain ⟨q, rfl⟩ := exists_text_eq_iff.2 hvalid
    rw [← text_under] at htext
    rw [text_injective htext, below?_under] at hb
    cases hb

/-! ### The order of paths -/

instance : LinearOrder Path := LinearOrder.lift' text text_injective

theorem text_lt_text {p q : Path} : p.text < q.text ↔ p < q := Iff.rfl

end Path

/-! ## 3. Names of blocks -/

namespace Block

/-- The name of a block is empty or a key. -/
theorem ofName?_isSome {name : String} (h : name = "" ∨ Key.Valid name) :
    ∃ b, ofName? name = some b := by
  unfold ofName?
  by_cases hname : name = ""
  · exact ⟨[], if_pos hname⟩
  · rw [if_neg hname]
    have hvalid := Key.valid_iff.1 (h.resolve_left hname)
    exact Segment.ofTexts?_isSome fun t ht =>
      ⟨hvalid t ht, Key.separator_not_mem_of_mem_segments ht⟩

theorem name_of_ofName? {name : String} {b : Block} (h : ofName? name = some b) :
    Block.name b = name := by
  unfold ofName? at h
  by_cases hname : name = ""
  · rw [if_pos hname] at h
    obtain rfl := Option.some.inj h
    rw [hname]
    rfl
  · rw [if_neg hname] at h
    rw [Block.name, Segment.ofTexts?_eq_some_iff.1 h, Key.ofSegments_segments]

theorem name_ne_empty {b : Block} (h : b ≠ []) : name b ≠ "" :=
  (Path.mk b h).valid_text.ne_empty

theorem scope_eq_empty_iff {b : Block} : scope b = "" ↔ b = [] := by
  constructor
  · intro h
    by_contra hb
    rw [scope, Key.scopeOf_of_ne (name_ne_empty hb), String.append_eq_empty_iff] at h
    exact name_ne_empty hb h.1
  · rintro rfl
    rfl

theorem scope_of_ofName? {name : String} {b : Block} (h : ofName? name = some b) :
    Key.scopeOf name = scope b := by
  rw [scope, name_of_ofName? h]

/-- The name is the scope without the separator at its end. -/
theorem blockOf?_scope (b : Block) :
    Key.blockOf? (scope b) = if b = [] then none else some (name b) := by
  by_cases hb : b = []
  · subst hb
    rfl
  · rw [if_neg hb, scope, Key.blockOf?_scopeOf, if_neg (name_ne_empty hb)]

/-- The scope of a block of a block. -/
theorem scope_append (b c : Block) : scope (b ++ c) = scope b ++ scope c := by
  cases c with
  | nil => simp [scope, name]
  | cons s c =>
    let p : Path := ⟨s :: c, List.cons_ne_nil s c⟩
    have hne : ∀ d : Block, name (d ++ s :: c) ≠ "" := fun d => (p.under d).valid_text.ne_empty
    have htext : name (b ++ s :: c) = scope b ++ name (s :: c) := Path.text_under b p
    rw [scope, Key.scopeOf_of_ne (hne b), htext, String.append_assoc]
    exact congrArg (scope b ++ ·) (Key.scopeOf_of_ne (hne [])).symm

end Block

end BlockConfig
