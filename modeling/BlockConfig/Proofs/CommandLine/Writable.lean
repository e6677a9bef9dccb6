/-
BlockConfig.Proofs.CommandLine.Writable — what is read can be written.

`Invocation.words` writes an invocation as a command line that reads back as
the same, if its pairs can be written: their keys are not empty and hold no
equals sign (`Invocation.Writable`). Here is the other half. Whatever command
line is understood, its invocation is one of those (`writable_of_ofWords`).

Pairs come in as assignments only, and an assignment is cut at its first
equals sign (`Assignment.parse_eq_ok_iff`). What is left to show is that the
reader keeps every pair as it came in, from the first word to the last, on
either level. This is so of any property of what was gathered that taking in
an option or an operand does not break (`Gathered.Stable`), and it is shown
for all of them at once.
-/
import BlockConfig.Proofs.CommandLine.RoundTrip

namespace BlockConfig

theorem bind_eq_ok_iff {ε α β : Type} {x : Except ε α} {f : α → Except ε β} {b : β} :
    x >>= f = .ok b ↔ ∃ a, x = .ok a ∧ f a = .ok b := by
  cases x <;> simp [bind, Except.bind]

/-! ## 1. Assignments -/

namespace Assignment

/-- A text is read as a pair exactly when it is what the pair is written as,
and the pair can be written. -/
theorem parse_eq_ok_iff {raw : String} {pair : String × String} :
    parse raw = .ok pair ↔ raw = write pair ∧ Writable pair := by
  constructor
  · intro h
    unfold parse at h
    cases hcut : cutAtEquals raw.toList with
    | none =>
      rw [hcut] at h
      cases h
    | some parts =>
      obtain ⟨before, after⟩ := parts
      rw [hcut] at h
      cases before with
      | nil => cases h
      | cons c cs =>
        obtain ⟨hraw, hequals⟩ := cutAtEquals_eq_some hcut
        cases h
        refine ⟨String.toList_inj.1 ?_, ?_, ?_⟩
        · simp [write, hraw, String.toList_append]
        · simp
        · simpa using hequals
  · rintro ⟨rfl, hkey, hequals⟩
    exact parse_write hkey hequals

end Assignment

namespace CommandLine

/-! ## 2. What reading does not break -/

/-- A property of what was gathered that nothing taken in breaks. -/
structure Gathered.Stable (P : Gathered → Prop) : Prop where
  accept : ∀ {g next : Gathered} {o : Opt} {raw : String},
    P g → g.accept o raw = .ok next → P next
  raise : ∀ {g next : Gathered} {l : Level} {o : Opt} {long : Bool},
    P g → g.raise l o long = .ok next → P next
  take : ∀ {g next : Gathered} {l : Level} {raw : String},
    P g → g.take l raw = .ok next → P next

section Stable

variable {P : Gathered → Prop} {l : Level} {s next : Scan} {o : Opt} {raw : String}

theorem Scan.settled_eq_ok_iff {f : Gathered → Except Reply Scan} :
    s.settled l f = .ok next ↔ ∃ g, s.settle l = .ok g ∧ f g = .ok next := by
  unfold settled
  cases s.settle l <;> simp

namespace Gathered.Stable

theorem settle (hP : Stable P) (hs : P s.gathered) {g : Gathered} (h : s.settle l = .ok g) :
    P g := by
  unfold Scan.settle at h
  cases hp : s.pending with
  | nothing =>
    rw [hp] at h
    cases h
    exact hs
  | awaiting o =>
    rw [hp] at h
    cases h
  | given o raw =>
    rw [hp] at h
    exact hP.accept hs h
  | operand raw =>
    rw [hp] at h
    exact hP.take hs h

theorem attached (hP : Stable P) (hs : P s.gathered) (h : s.attached l o raw = .ok next) :
    P next.gathered := by
  obtain ⟨g, hg, haccept⟩ := Scan.settled_eq_ok_iff.1 h
  obtain ⟨g', hg', rfl⟩ := map_eq_ok_iff.1 haccept
  exact hP.accept (hP.settle hs hg) hg'

theorem await (hP : Stable P) (hs : P s.gathered) (h : s.await l o = .ok next) :
    P next.gathered := by
  obtain ⟨g, hg, hnext⟩ := Scan.settled_eq_ok_iff.1 h
  cases hnext
  exact hP.settle hs hg

theorem switch (hP : Stable P) (hs : P s.gathered) {long : Bool}
    (h : s.switch l o long = .ok next) : P next.gathered := by
  obtain ⟨g, hg, hraise⟩ := Scan.settled_eq_ok_iff.1 h
  obtain ⟨g', hg', rfl⟩ := map_eq_ok_iff.1 hraise
  exact hP.raise (hP.settle hs hg) hg'

theorem long (hP : Stable P) (hs : P s.gathered) {name : String} {value : Option String}
    (h : s.long l name value = .ok next) : P next.gathered := by
  unfold Scan.long at h
  split at h
  · cases h
  · split at h
    · exact hP.await hs h
    · exact hP.switch hs h
  · split at h
    · exact hP.attached hs h
    · cases h

theorem letters (hP : Stable P) {cs : List Char} (hs : P s.gathered)
    (h : Scan.letters l s cs = .ok next) : P next.gathered := by
  -- A switch is taken in before the next letter is read, so the scan varies.
  induction cs generalizing s with
  | nil =>
    cases h
    exact hs
  | cons c rest ih =>
    rw [Scan.letters] at h
    split at h
    · cases h
    · split at h
      · split at h
        · exact hP.await hs h
        · exact hP.attached hs h
      · split at h
        · cases h
        · next hswitch => exact ih (hP.switch hs hswitch) h

theorem operand (hP : Stable P) (hs : P s.gathered) (h : s.operand l raw = .ok next) :
    P next.gathered := by
  unfold Scan.operand at h
  split at h
  · obtain ⟨g, hg, hnext⟩ := Scan.settled_eq_ok_iff.1 h
    cases hnext
    exact hP.settle hs hg
  · split at h <;> cases h

theorem step (hP : Stable P) (hs : P s.gathered) (h : s.step l raw = .ok next) :
    P next.gathered := by
  unfold Scan.step at h
  split at h
  · exact hP.operand hs h
  · split at h
    · cases h
      exact hs
    · exact hP.long hs h
    · exact hP.letters hs h
    · unfold Scan.plain at h
      split at h
      · cases h
        exact hs
      · exact hP.operand hs h

theorem readLevel (hP : Stable P) {words : List String} (hs : P s.gathered)
    (h : readLevel l s words = .ok next) : P next.gathered := by
  induction words generalizing s with
  | nil =>
    cases h
    exact hs
  | cons word rest ih =>
    rw [CommandLine.readLevel] at h
    split at h
    · cases h
    · next hstep => exact ih (hP.step hs hstep) h

end Gathered.Stable

end Stable

/-! ## 3. What is read can be written -/

/-- All pairs that were gathered can be written as assignments. -/
structure Gathered.Writable (g : Gathered) : Prop where
  values : ∀ p ∈ g.globals.settings.values, Assignment.Writable p
  incoming : ∀ p ∈ g.incoming, Assignment.Writable p

theorem Gathered.writable_start : Gathered.Writable {} := ⟨nofun, nofun⟩

theorem Gathered.assignment_eq_ok_iff {o : Opt} {raw : String} {p : String × String} :
    assignment o raw = .ok p ↔ raw = Assignment.write p ∧ Assignment.Writable p := by
  rw [← Assignment.parse_eq_ok_iff, assignment]
  cases Assignment.parse raw with
  | error e => constructor <;> intro h <;> cases h
  | ok read => constructor <;> intro h <;> cases h <;> rfl

theorem Gathered.stable_writable : Stable Writable where
  accept {g next o raw} hg h := by
    have hpairs : ∀ {pairs : List (String × String)} {p : String × String},
        (∀ q ∈ pairs, Assignment.Writable q) → assignment o raw = .ok p →
          ∀ q ∈ pairs ++ [p], Assignment.Writable q := by
      intro pairs p hpairs hp q hq
      rcases List.mem_append.1 hq with hq | hq
      · exact hpairs q hq
      · obtain rfl := List.mem_singleton.1 hq
        exact (assignment_eq_ok_iff.1 hp).2
    cases o with
    | set =>
      obtain ⟨p, hp, rfl⟩ := map_eq_ok_iff.1 h
      exact ⟨hpairs hg.values hp, hg.incoming⟩
    | incoming =>
      obtain ⟨p, hp, rfl⟩ := map_eq_ok_iff.1 h
      exact ⟨hg.values, hpairs hg.incoming hp⟩
    | block | default =>
      obtain ⟨_, -, rfl⟩ := map_eq_ok_iff.1 h
      exact ⟨hg.values, hg.incoming⟩
    | lock =>
      cases h
      exact ⟨hg.values, hg.incoming⟩
    | _ => cases h
  raise {g next l o long} hg h := by
    cases o with
    | debug | quiet | json =>
      rw [raise] at h
      split at h
      · cases h
      · cases h
        exact ⟨hg.values, hg.incoming⟩
    | _ => cases h
  take {g next l raw} hg h := by
    unfold take at h
    split at h
    · split at h
      · cases h
        exact ⟨hg.values, hg.incoming⟩
      · cases h
    · cases h
      exact ⟨hg.values, hg.incoming⟩

theorem Globals.values_over {inner outer : Globals} {P : String × String → Prop}
    (hinner : ∀ p ∈ inner.settings.values, P p) (houter : ∀ p ∈ outer.settings.values, P p) :
    ∀ p ∈ (inner.over outer).settings.values, P p := by
  rw [Globals.over]
  dsimp only
  split
  · exact houter
  · exact hinner

theorem Gathered.Writable.command {g : Gathered} (hg : g.Writable) {v : Verb} {c : Command}
    (h : g.command v = .ok c) {values : List (String × String)} {json : Bool}
    (hc : c = .merge values json) : ∀ p ∈ values, Assignment.Writable p := by
  subst hc
  cases v with
  | merge =>
    cases h
    exact hg.incoming
  | get | has | subblock | unset =>
    rw [Gathered.command, withOperand] at h
    split at h <;> cases h
  | completion =>
    rw [Gathered.command] at h
    split at h <;> cases h
  | _ => cases h

/-- What is read behind a command word. -/
theorem writable_of_readInner {v : Verb} {words : List String} {globals : Globals} {c : Command}
    (h : readInner v words = .ok (globals, c)) :
    (∀ p ∈ globals.settings.values, Assignment.Writable p)
      ∧ ∀ values json, c = .merge values json → ∀ p ∈ values, Assignment.Writable p := by
  obtain ⟨s, hs, h⟩ := bind_eq_ok_iff.1 h
  obtain ⟨g, hg, h⟩ := bind_eq_ok_iff.1 h
  obtain ⟨command, hc, h⟩ := bind_eq_ok_iff.1 h
  cases h
  have hgathered := Gathered.stable_writable.readLevel Gathered.writable_start hs
  have hwritable := Gathered.stable_writable.settle hgathered hg
  exact ⟨hwritable.values, fun _ _ heq => hwritable.command hc heq⟩

theorem writable_of_readOuter {s : Scan} (hs : s.gathered.Writable) {words : List String}
    {i : Invocation} (h : readOuter s words = .ok i) : i.Writable := by
  induction words generalizing s with
  | nil =>
    rw [readOuter] at h
    split at h <;> cases h
  | cons raw rest ih =>
    rw [readOuter] at h
    split at h
    · cases h
    · obtain ⟨⟨inner, command⟩, hinner, h⟩ := bind_eq_ok_iff.1 h
      obtain ⟨outer, houter, h⟩ := bind_eq_ok_iff.1 h
      cases h
      obtain ⟨hvalues, hincoming⟩ := writable_of_readInner hinner
      exact ⟨Globals.values_over hvalues (Gathered.stable_writable.settle hs houter).values,
        hincoming⟩
    · split at h
      · cases h
      · next hstep => exact ih (Gathered.stable_writable.step hs hstep) h

/-- Whatever command line is understood, its invocation can be written. -/
theorem writable_of_ofWords {words : List String} {i : Invocation}
    (h : Invocation.ofWords words = .ok i) : i.Writable :=
  writable_of_readOuter Gathered.writable_start h

end CommandLine

end BlockConfig
