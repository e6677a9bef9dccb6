/-
BlockConfig.Proofs.Key.Spelling — the keys, told in three ways.

A text is a key when the check finds no empty segment in it. That is to say
that it is spelled out of segments (`valid_iff_exists_spells`), and it can be
seen from the text without cutting it: the text is not empty, the separator
is neither its beginning nor its end, and no two separators stand together
(`valid_iff_not_loose`). All of it comes from the one fact that cutting takes
the separator between two texts for a boundary (`segments_append`). An empty
segment, wherever it is, is the empty text with a separator before it, behind
it, on both sides, or on none.

Cutting and writing are inverse to one another on these. So keys are lists of
segments, and nothing more: `bijOn_ofSegments`.
-/
import Mathlib.Data.Set.Function
import BlockConfig.Error
import BlockConfig.Proofs.Key.Grammar

namespace BlockConfig.Key

/-! ## 1. Cutting what was written -/

/-- Texts that are written one after another are cut one after another, also
if they hold separators themselves. -/
theorem segments_ofSegments_eq_flatMap {texts : List String} (h : texts ≠ []) :
    segments (ofSegments texts) = texts.flatMap segments := by
  induction texts with
  | nil => exact absurd rfl h
  | cons text rest ih =>
    cases rest with
    | nil => simp
    | cons next rest =>
      rw [ofSegments_cons text (List.cons_ne_nil next rest), segments_append,
        ih (List.cons_ne_nil next rest)]
      rfl

/-- A key can be spelled so: there are segments, none of them is empty, and
none holds a separator. -/
def Spells (segs : List String) : Prop := segs ≠ [] ∧ ∀ s ∈ segs, s ≠ "" ∧ separator ∉ s.toList

instance (segs : List String) : Decidable (Spells segs) :=
  inferInstanceAs (Decidable (_ ∧ ∀ s ∈ segs, _))

theorem Spells.segments_ofSegments {segs : List String} (h : Spells segs) :
    segments (ofSegments segs) = segs :=
  Key.segments_ofSegments h.1 fun s hs => (h.2 s hs).2

/-- The segments of a text spell a key when the text is one. -/
theorem spells_segments_iff {key : String} : Spells (segments key) ↔ Valid key := by
  rw [valid_iff]
  constructor
  · intro h s hs
    exact (h.2 s hs).1
  · intro h
    exact ⟨segments_ne_nil key, fun s hs => ⟨h s hs, separator_not_mem_of_mem_segments hs⟩⟩

theorem valid_ofSegments {segs : List String} (h : Spells segs) : Valid (ofSegments segs) := by
  rwa [← spells_segments_iff, h.segments_ofSegments]

theorem valid_iff_exists_spells {key : String} :
    Valid key ↔ ∃ segs, Spells segs ∧ key = ofSegments segs := by
  constructor
  · intro h
    exact ⟨segments key, spells_segments_iff.2 h, (ofSegments_segments key).symm⟩
  · rintro ⟨segs, hsegs, rfl⟩
    exact valid_ofSegments hsegs

/-- Writing and cutting take spellings to keys and back. -/
theorem bijOn_ofSegments :
    Set.BijOn ofSegments {segs | Spells segs} {key | Valid key} := by
  have hinverse : Set.InvOn segments ofSegments {segs | Spells segs} {key | Valid key} :=
    ⟨fun _ hsegs => Spells.segments_ofSegments hsegs, fun key _ => ofSegments_segments key⟩
  refine hinverse.bijOn ?_ ?_
  · intro segs hsegs
    exact valid_ofSegments hsegs
  · intro key hkey
    exact spells_segments_iff.2 hkey

/-! ## 2. Without cutting -/

/-- A separator stands where there is no segment on one of its sides. -/
inductive Loose : String → Prop
  | atStart (rest : String) : Loose (":" ++ rest)
  | atEnd (rest : String) : Loose (rest ++ ":")
  | doubled (before after : String) : Loose (before ++ "::" ++ after)

theorem separatorText_eq : separatorText = ":" := rfl

theorem Loose.not_valid {key : String} (h : Loose key) : ¬ Valid key := by
  have hempty : ¬ Valid "" := by decide
  cases h with
  | atStart rest =>
    have hkey : ":" ++ rest = "" ++ separatorText ++ rest := by simp [separatorText_eq]
    rw [hkey, valid_append]
    exact fun hvalid => hempty hvalid.1
  | atEnd rest =>
    have hkey : rest ++ ":" = rest ++ separatorText ++ "" := by simp [separatorText_eq]
    rw [hkey, valid_append]
    exact fun hvalid => hempty hvalid.2
  | doubled before after =>
    have hdoubled : "::" = separatorText ++ ("" ++ separatorText) := by decide
    have hkey : before ++ "::" ++ after
        = before ++ separatorText ++ ("" ++ separatorText ++ after) := by
      simp only [hdoubled, String.append_assoc]
    rw [hkey, valid_append, valid_append]
    exact fun hvalid => hempty hvalid.2.1

/-- Where a segment is empty a separator is loose, unless the text is empty. -/
theorem loose_of_mem_segments {key : String} (h : "" ∈ segments key) : key = "" ∨ Loose key := by
  obtain ⟨before, after, hsegments⟩ := List.append_of_mem h
  have hkey : key = ofSegments (before ++ "" :: after) := by
    rw [← hsegments, ofSegments_segments]
  cases before with
  | nil =>
    cases after with
    | nil => exact .inl hkey
    | cons next after =>
      right
      have hstart : key = ":" ++ ofSegments (next :: after) := by
        rw [hkey, List.nil_append, ofSegments_cons _ (List.cons_ne_nil next after),
          String.empty_append, separatorText_eq]
      exact hstart ▸ .atStart _
  | cons first before =>
    right
    rw [ofSegments_append (List.cons_ne_nil first before) (List.cons_ne_nil "" after)] at hkey
    cases after with
    | nil =>
      have hend : key = ofSegments (first :: before) ++ ":" := by
        rw [hkey, ofSegments_singleton, String.append_empty, separatorText_eq]
      exact hend ▸ .atEnd _
    | cons next after =>
      have hdoubled : "::" = separatorText ++ separatorText := by decide
      have hmiddle : key = ofSegments (first :: before) ++ "::" ++ ofSegments (next :: after) := by
        rw [hkey, ofSegments_cons _ (List.cons_ne_nil next after), String.empty_append, hdoubled]
        simp only [String.append_assoc]
      exact hmiddle ▸ .doubled _ _

theorem valid_iff_not_loose {key : String} : Valid key ↔ key ≠ "" ∧ ¬ Loose key := by
  constructor
  · intro h
    exact ⟨h.ne_empty, fun hloose => hloose.not_valid h⟩
  · rintro ⟨hne, hloose⟩
    rw [valid_iff]
    rintro s hs rfl
    exact (loose_of_mem_segments hs).elim hne hloose

/-! ## 3. The check -/

theorem check_eq_error_iff_of_text {key : String} {e : ConfigError} :
    check key = .error e
      ↔ check key ≠ .ok () ∧ e = .invalidKey key (if key = "" then .empty else .emptySegment) := by
  by_cases hkey : Valid key
  · simp [check_eq_ok_iff.2 hkey]
  · have hcheck : check key
        = .error (.invalidKey key (if key = "" then .empty else .emptySegment)) := by
      rw [check, fault?_of_not_valid hkey]
    simp [hcheck, eq_comm]

/-- The check accepts what is spelled out of segments, and that is what is not
empty and has no loose separator. Anything else it reports as it was given.
Cutting and writing are inverse to each other, texts that are written together
are cut apart by themselves, and two texts with a separator between them are
accepted when both are. -/
theorem check_accepts_spellings :
    (∀ key,
      (check key = .ok () ↔ ∃ segs, Spells segs ∧ key = ofSegments segs)
      ∧ (check key = .ok () ↔ key ≠ "" ∧ ¬ Loose key)
      ∧ (∀ e, check key = .error e
          ↔ check key ≠ .ok ()
            ∧ e = .invalidKey key (if key = "" then .empty else .emptySegment))
      ∧ ofSegments (segments key) = key)
    ∧ (∀ segs, segs ≠ [] → (∀ s ∈ segs, ':' ∉ s.toList) → segments (ofSegments segs) = segs)
    ∧ (∀ texts, texts ≠ [] → segments (ofSegments texts) = texts.flatMap segments)
    ∧ Set.BijOn ofSegments {segs | Spells segs} {key | check key = .ok ()}
    ∧ ∀ outer key,
        check (outer ++ ":" ++ key) = .ok () ↔ check outer = .ok () ∧ check key = .ok () := by
  refine ⟨fun key => ⟨?_, ?_, fun e => check_eq_error_iff_of_text, ofSegments_segments key⟩,
    fun segs => segments_ofSegments, fun texts => segments_ofSegments_eq_flatMap, ?_,
    fun outer key => ?_⟩
  · rw [check_eq_ok_iff, valid_iff_exists_spells]
  · rw [check_eq_ok_iff, valid_iff_not_loose]
  · simpa only [check_eq_ok_iff] using bijOn_ofSegments
  · rw [← separatorText_eq]
    simpa only [check_eq_ok_iff] using valid_append

/-- Segments with blanks and of other letters, texts with separators at their
ends and without anything, and a text with a doubled separator. -/
theorem check_accepts_spelling_with_blank :
    Spells ["a b", "é"]
      ∧ check (ofSegments ["a b", "é"]) = .ok ()
      ∧ segments (ofSegments ["", "a", ""]) = ["", "a", ""]
      ∧ segments (ofSegments ["a:b", "", ":"]) = ["a", "b", "", "", ""]
      ∧ check "a::b" = .error (.invalidKey "a::b" .emptySegment) := by
  obtain ⟨hkeys, hplain, htexts, -, -⟩ := check_accepts_spellings
  obtain ⟨hspelled, -⟩ := hkeys (ofSegments ["a b", "é"])
  obtain ⟨-, hloose, herror, -⟩ := hkeys "a::b"
  have hspells : Spells ["a b", "é"] := by decide
  refine ⟨hspells, hspelled.2 ⟨_, hspells, rfl⟩, hplain _ (by decide) (by decide), ?_, ?_⟩
  · rw [htexts _ (by decide)]
    decide
  · exact (herror _).2 ⟨fun hok => (hloose.1 hok).2 (.doubled "a" "b"), rfl⟩

end BlockConfig.Key
