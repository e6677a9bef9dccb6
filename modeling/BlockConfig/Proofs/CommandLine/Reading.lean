/-
BlockConfig.Proofs.CommandLine.Reading — what is read from words that say
something.

A `Piece` is one thing that is said on a level: an option with its value, a
switch, or the operand. `Written` relates pieces to the words they may be
written in, and `Gathered.addAll` is what they come to. The main statement
is `ofWords_of_written`: words that say some pieces on the outer level,
then a command word, then words that say some pieces on the inner level are
read as what those pieces come to, whichever of their spellings was used.

The reader looks into a value only when the next option arrives, so in the
middle of a line what was gathered lags behind what was said. The invariant
is therefore about `Scan.settle` and not about `Scan.gathered`: a scan is
`Ready` when settling it would give what the pieces so far come to.
`Written.passes` carries it along the words, one piece at a time.
-/
import BlockConfig.Proofs.CommandLine.Words

namespace BlockConfig.CommandLine

/-! ## 1. Pieces and what they come to -/

/-- One thing that is said on a level. -/
inductive Piece
  | value (o : Opt) (raw : String)
  | switch (o : Opt)
  | operand (raw : String)
deriving DecidableEq

namespace Gathered

/-- Take in a piece. There is one operand at most. -/
def add (l : Level) (g : Gathered) : Piece → Except Reply Gathered
  | .value o raw => g.accept o raw
  | .switch o => g.raise l o true
  | .operand raw => if g.operand.isSome then .error (.unknownArgument raw) else g.take l raw

/-- Take in pieces one after another. The first refusal counts. -/
def addAll (l : Level) : Gathered → List Piece → Except Reply Gathered
  | g, [] => .ok g
  | g, p :: ps =>
    match g.add l p with
    | .error r => .error r
    | .ok next => addAll l next ps

@[simp] theorem addAll_nil (l : Level) (g : Gathered) : g.addAll l [] = .ok g := rfl

theorem addAll_cons_of_ok {l : Level} {g next : Gathered} {p : Piece} (h : g.add l p = .ok next)
    (ps : List Piece) : g.addAll l (p :: ps) = next.addAll l ps := by
  rw [addAll, h]

theorem addAll_cons_eq_ok_iff {l : Level} {g last : Gathered} {p : Piece} {ps : List Piece} :
    g.addAll l (p :: ps) = .ok last
      ↔ ∃ next, g.add l p = .ok next ∧ next.addAll l ps = .ok last := by
  rw [addAll]
  cases g.add l p <;> simp

/-! ### What an accepted piece tells -/

/-- Only options that take a value accept one. -/
theorem takesValue_of_accept {g next : Gathered} {o : Opt} {raw : String}
    (h : g.accept o raw = .ok next) : o.takesValue = true := by
  cases o <;> first | rfl | cases h

theorem operand_of_accept {g next : Gathered} {o : Opt} {raw : String}
    (h : g.accept o raw = .ok next) : next.operand = g.operand := by
  cases o with
  | set | incoming | block | default =>
    obtain ⟨_, -, rfl⟩ := map_eq_ok_iff.1 h
    rfl
  | _ => cases h <;> rfl

/-- Only switches are taken in without a value, and their spelling does not
matter. -/
theorem raise_eq_ok {g next : Gathered} {l : Level} {o : Opt}
    (h : g.raise l o true = .ok next) :
    o.takesValue = false ∧ ∀ long, g.raise l o long = .ok next := by
  cases o <;> first | exact ⟨rfl, fun _ => h⟩ | cases h

theorem operand_of_take {g next : Gathered} {l : Level} {raw : String}
    (h : g.take l raw = .ok next) : next.operand = some raw := by
  unfold take at h
  split at h
  · split at h
    · cases h
      rfl
    · cases h
  · cases h
    rfl

theorem add_operand_eq_ok_iff {l : Level} {g next : Gathered} {raw : String} :
    g.add l (.operand raw) = .ok next ↔ g.operand.isSome = false ∧ g.take l raw = .ok next := by
  cases h : g.operand.isSome <;> simp [add, h]

end Gathered

/-! ## 2. Scans that are ready for more -/

namespace Scan

/-- Settling would give what was said so far, and options may still
follow. -/
structure Ready (s : Scan) (l : Level) (g : Gathered) : Prop where
  settles : s.settle l = .ok g
  listens : s.onlyOperands = false

theorem settled_of_settles {s : Scan} {l : Level} {g : Gathered} (h : s.settle l = .ok g)
    (next : Gathered → Except Reply Scan) : s.settled l next = next g := by
  rw [settled, h]

theorem not_awaiting_of_settles {s : Scan} {l : Level} {g : Gathered} (h : s.settle l = .ok g)
    (o : Opt) : s.pending ≠ .awaiting o := by
  intro hp
  rw [settle, hp] at h
  cases h

theorem Ready.mayTurn {s : Scan} {l : Level} {g : Gathered} (h : s.Ready l g) :
    s.mayTurn = true := by
  have hp := not_awaiting_of_settles h.settles
  unfold Scan.mayTurn
  rw [h.listens]
  cases hs : s.pending with
  | awaiting o => exact absurd hs (hp o)
  | _ => rfl

theorem operandTaken_of_settles {s : Scan} {l : Level} {g : Gathered}
    (h : s.settle l = .ok g) : s.operandTaken = g.operand.isSome := by
  unfold operandTaken
  cases hp : s.pending with
  | nothing =>
    rw [settle, hp] at h
    obtain rfl : s.gathered = g := Except.ok.inj h
    simp
  | awaiting o => exact absurd hp (not_awaiting_of_settles h o)
  | given o raw =>
    rw [settle, hp] at h
    rw [Gathered.operand_of_accept h]
    simp
  | operand raw =>
    rw [settle, hp] at h
    rw [Gathered.operand_of_take h]
    simp

/-! ## 3. Passing words -/

/-- The words are read one after another without a refusal and, on the
outer level, without a turn to a command. -/
inductive Passes (l : Level) : Scan → List String → Scan → Prop
  | nil (s : Scan) : Passes l s [] s
  | cons {s next last : Scan} {raw : String} {rest : List String}
      (hturn : l = .outer → s.turn raw = .stay) (hstep : s.step l raw = .ok next)
      (h : Passes l next rest last) : Passes l s (raw :: rest) last

theorem Passes.append {l : Level} {s next last : Scan} {ws rest : List String}
    (h : Passes l s ws next) (hrest : Passes l next rest last) : Passes l s (ws ++ rest) last := by
  induction h with
  | nil s => exact hrest
  | cons hturn hstep _ ih => exact .cons hturn hstep (ih hrest)

theorem Passes.readLevel {l : Level} {s last : Scan} {ws : List String} (h : Passes l s ws last) :
    readLevel l s ws = .ok last := by
  induction h with
  | nil s => rfl
  | cons _ hstep _ ih => simpa [CommandLine.readLevel, hstep] using ih

theorem Passes.readOuter {s last : Scan} {ws : List String} (h : Passes .outer s ws last)
    (rest : List String) : readOuter s (ws ++ rest) = readOuter last rest := by
  induction h with
  | nil s => rfl
  | cons hturn hstep _ ih => simpa [CommandLine.readOuter, hturn rfl, hstep] using ih

/-- A word that begins with a dash and is read in one step. -/
theorem Passes.dash {l : Level} {s next : Scan} {raw : String} {cs : List Char}
    (hraw : raw.toList = '-' :: cs) (hstep : s.step l raw = .ok next) : Passes l s [raw] next :=
  .cons (fun _ => turn_of_dash hraw) hstep (.nil next)

theorem long_alone {l : Level} {o : Opt} (ho : o ∈ l.options) (s : Scan) :
    s.long l o.name none = if o.takesValue then s.await l o else s.switch l o true := by
  simp [Scan.long, Level.named?_name ho]

theorem long_attached {l : Level} {o : Opt} (ho : o ∈ l.options) (s : Scan) (raw : String) :
    s.long l o.name (some raw)
      = if o.takesValue then s.attached l o raw else .error (.surplusValue raw o) := by
  simp [Scan.long, Level.named?_name ho]

/-! ### Options with a value -/

section Values

variable {l : Level} {s : Scan} {g next : Gathered} {o : Opt} {raw : String}

theorem attached_of_settles (hs : s.settle l = .ok g) (ha : g.accept o raw = .ok next) :
    s.attached l o raw = .ok { s with gathered := next, pending := .nothing } := by
  rw [attached, settled_of_settles hs, ha]
  rfl

theorem await_of_settles (hs : s.settle l = .ok g) :
    s.await l o = .ok { s with gathered := g, pending := .awaiting o } := by
  rw [await, settled_of_settles hs]

/-- The word that brings the value which is waited for. -/
theorem Passes.awaited (hlistens : s.onlyOperands = false)
    (hraw : Word.ofChars raw.toList = .plain) :
    Passes l { s with gathered := g, pending := .awaiting o } [raw]
      { s with gathered := g, pending := .given o raw } := by
  refine .cons (fun _ => turn_of_not_mayTurn ?_ raw) ?_ (.nil _)
  · simp [mayTurn]
  · simp [step, hlistens, hraw, plain]

theorem step_of_name {name : String} {value : Option String} (hlistens : s.onlyOperands = false)
    (hraw : Word.ofChars raw.toList = .long name value) :
    s.step l raw = s.long l name value := by
  rw [step, if_neg (by simp [hlistens]), hraw]

theorem step_of_letters {cs : List Char} (hlistens : s.onlyOperands = false)
    (hraw : Word.ofChars raw.toList = .letters cs) : s.step l raw = letters l s cs := by
  rw [step, if_neg (by simp [hlistens]), hraw]

theorem letterValue_of_head? {cs : List Char} (h : cs.head? ≠ some '=') :
    letterValue cs = String.ofList cs := by
  unfold letterValue
  split
  · exact absurd rfl h
  · rfl

/-- An option with its value passes, however it is spelled. -/
theorem Ready.spells (hs : s.Ready l g) (ho : o ∈ l.options) (ha : g.accept o raw = .ok next)
    {ws : List String} (hw : o.Spells raw ws) : ∃ t, Passes l s ws t ∧ t.Ready l next := by
  have hv : o.takesValue = true := Gathered.takesValue_of_accept ha
  have hattached := attached_of_settles hs.settles ha
  have hawait := await_of_settles (o := o) hs.settles
  have hready : Ready { s with gathered := next, pending := .nothing } l next :=
    ⟨rfl, hs.listens⟩
  have hgiven : Ready { s with gathered := g, pending := .given o raw } l next :=
    ⟨ha, hs.listens⟩
  cases hw with
  | attached =>
    refine ⟨_, .dash (Opt.attach_toList o raw) ?_, hready⟩
    rw [Opt.attach, step_of_name hs.listens (Word.ofChars_attached o.equals_not_mem_name raw),
      long_attached ho, hv, if_pos rfl, hattached]
  | apart hraw =>
    refine ⟨_, .append (.dash (Opt.named_toList o) ?_)
      (Passes.awaited hs.listens hraw), hgiven⟩
    rw [step_of_name hs.listens (Word.ofChars_name o.name_ne_empty o.equals_not_mem_name),
      long_alone ho, hv, if_pos rfl, hawait]
  | @letter c hc hraw =>
    have hword := Word.ofChars_letters (Opt.ne_dash_of_letter? hc) []
    rw [← Opt.dashed_toList] at hword
    refine ⟨_, .append (.dash (Opt.dashed_toList c) ?_) (Passes.awaited hs.listens hraw), hgiven⟩
    rw [step_of_letters hs.listens hword, letters, Level.lettered?_letter ho hc]
    simp only [hv, if_true, List.isEmpty_nil, hawait]
  | @joined c hc hne hraw =>
    have hword := Word.ofChars_letters (Opt.ne_dash_of_letter? hc) raw.toList
    rw [← Opt.dashed_append_toList] at hword
    have hrest : raw.toList.isEmpty = false := by simpa using hne
    refine ⟨_, .dash (Opt.dashed_append_toList c raw) ?_, hready⟩
    rw [step_of_letters hs.listens hword, letters, Level.lettered?_letter ho hc]
    simp only [hv, if_true, hrest, Bool.false_eq_true, if_false, letterValue_of_head? hraw,
      String.ofList_toList, hattached]
  | @equals c hc =>
    have hchars : (Opt.dashed c ++ "=" ++ raw).toList = '-' :: c :: '=' :: raw.toList := by
      simp [Opt.dashed, String.toList_append]
    have hword := Word.ofChars_letters (Opt.ne_dash_of_letter? hc) ('=' :: raw.toList)
    rw [← hchars] at hword
    refine ⟨_, .dash hchars ?_, hready⟩
    rw [step_of_letters hs.listens hword, letters, Level.lettered?_letter ho hc]
    simp only [hv, if_true, List.isEmpty_cons, Bool.false_eq_true, if_false, letterValue,
      String.ofList_toList, hattached]

end Values

/-! ### Switches -/

theorem Ready.shows {s : Scan} {l : Level} {g next : Gathered} {o : Opt} (hs : s.Ready l g)
    (ho : o ∈ l.options) (ha : g.raise l o true = .ok next) {word : String} (hw : o.Shows word) :
    ∃ t, Passes l s [word] t ∧ t.Ready l next := by
  obtain ⟨hv, hraise⟩ := Gathered.raise_eq_ok ha
  have hswitch : ∀ long, s.switch l o long
      = .ok { s with gathered := next, pending := .nothing } := by
    intro long
    rw [switch, settled_of_settles hs.settles, hraise]
    rfl
  refine ⟨{ s with gathered := next, pending := .nothing }, ?_, ⟨rfl, hs.listens⟩⟩
  cases hw with
  | long =>
    refine .dash (Opt.named_toList o) ?_
    rw [step_of_name hs.listens (Word.ofChars_name o.name_ne_empty o.equals_not_mem_name),
      long_alone ho, hv, if_neg Bool.false_ne_true, hswitch]
  | @letter c hc =>
    have hword := Word.ofChars_letters (Opt.ne_dash_of_letter? hc) []
    rw [← Opt.dashed_toList] at hword
    refine .dash (Opt.dashed_toList c) ?_
    rw [step_of_letters hs.listens hword, letters, Level.lettered?_letter ho hc]
    simp only [hv, Bool.false_eq_true, if_false, hswitch, letters]

/-! ### Operands -/

theorem operand_of_settles {s : Scan} {l : Level} {g : Gathered} (hs : s.settle l = .ok g)
    (hl : l.hasOperand = true) (hnone : g.operand.isSome = false) (raw : String) :
    s.operand l raw = .ok { s with gathered := g, pending := .operand raw } := by
  rw [operand, operandTaken_of_settles hs, hl, hnone, settled_of_settles hs]
  rfl

theorem plain_of_settles {s : Scan} {l : Level} {g : Gathered} (hs : s.settle l = .ok g)
    (raw : String) : s.plain l raw = s.operand l raw := by
  unfold plain
  split
  · next o hp => exact absurd hp (not_awaiting_of_settles hs o)
  · rfl

end Scan

/-! ## 4. Pieces in words -/

/-- The words that pieces may be written in. An operand that looks like an
option stands behind `--`, where nothing can follow it. -/
inductive Written (l : Level) : List Piece → List String → Prop
  | nil : Written l [] []
  | value {o : Opt} {raw : String} {ws rest : List String} {ps : List Piece}
      (ho : o ∈ l.options) (hw : o.Spells raw ws) (h : Written l ps rest) :
      Written l (.value o raw :: ps) (ws ++ rest)
  | switch {o : Opt} {word : String} {rest : List String} {ps : List Piece}
      (ho : o ∈ l.options) (hw : o.Shows word) (h : Written l ps rest) :
      Written l (.switch o :: ps) (word :: rest)
  | operand {raw : String} {rest : List String} {ps : List Piece} (hl : l.hasOperand = true)
      (hraw : Word.ofChars raw.toList = .plain) (h : Written l ps rest) :
      Written l (.operand raw :: ps) (raw :: rest)
  | last (raw : String) (hl : l.hasOperand = true) : Written l [.operand raw] ["--", raw]

theorem outer_hasNoOperand : Level.outer.hasOperand = false := rfl

/-- The words of some pieces pass, and settling then gives what the pieces
come to. Where there is no operand, the reader stays ready. -/
theorem Written.passes {l : Level} {ps : List Piece} {ws : List String} (hw : Written l ps ws)
    {s : Scan} {g last : Gathered} (hs : s.Ready l g) (hg : g.addAll l ps = .ok last) :
    ∃ t, Scan.Passes l s ws t ∧ t.settle l = .ok last
      ∧ (l.hasOperand = false → t.Ready l last) := by
  induction hw generalizing s g with
  | nil =>
    obtain rfl : g = last := Except.ok.inj hg
    exact ⟨s, .nil s, hs.settles, fun _ => hs⟩
  | value ho hw _ ih =>
    obtain ⟨next, ha, hrest⟩ := Gathered.addAll_cons_eq_ok_iff.1 hg
    obtain ⟨t, hpass, ht⟩ := hs.spells ho ha hw
    obtain ⟨u, hpass', hu⟩ := ih ht hrest
    exact ⟨u, hpass.append hpass', hu⟩
  | switch ho hw _ ih =>
    obtain ⟨next, ha, hrest⟩ := Gathered.addAll_cons_eq_ok_iff.1 hg
    obtain ⟨t, hpass, ht⟩ := hs.shows ho ha hw
    obtain ⟨u, hpass', hu⟩ := ih ht hrest
    exact ⟨u, hpass.append hpass', hu⟩
  | @operand raw rest ps hl hraw _ ih =>
    obtain ⟨next, ha, hrest⟩ := Gathered.addAll_cons_eq_ok_iff.1 hg
    obtain ⟨hnone, htake⟩ := Gathered.add_operand_eq_ok_iff.1 ha
    have ht : Scan.Ready { s with gathered := g, pending := .operand raw } l next :=
      ⟨htake, hs.listens⟩
    obtain ⟨u, hpass, hu⟩ := ih ht hrest
    refine ⟨u, .cons (fun hout => ?_) ?_ hpass, hu⟩
    · rw [hout, outer_hasNoOperand] at hl
      cases hl
    · rw [Scan.step, if_neg (by simp [hs.listens]), hraw]
      exact (Scan.plain_of_settles hs.settles raw).trans
        (Scan.operand_of_settles hs.settles hl hnone raw)
  | last raw hl =>
    obtain ⟨next, ha, hrest⟩ := Gathered.addAll_cons_eq_ok_iff.1 hg
    obtain rfl : next = last := Except.ok.inj hrest
    obtain ⟨hnone, htake⟩ := Gathered.add_operand_eq_ok_iff.1 ha
    let closed : Scan := { s with onlyOperands := true }
    have hclosed : closed.settle l = .ok g := hs.settles
    have hdashes : Scan.Passes l s ["--"] closed := by
      refine .dash rfl ?_
      rw [Scan.step, if_neg (by simp [hs.listens])]
      rfl
    have hoperand : closed.step l raw
        = .ok { closed with gathered := g, pending := .operand raw } := by
      rw [Scan.step, if_pos rfl]
      exact Scan.operand_of_settles hclosed hl hnone raw
    refine ⟨{ closed with gathered := g, pending := .operand raw }, ?_, htake, fun hno => ?_⟩
    · exact hdashes.append (.cons (fun _ => Scan.turn_of_not_mayTurn rfl raw) hoperand (.nil _))
    · rw [hl] at hno
      cases hno

/-! ## 5. Both levels -/

theorem Scan.ready_start (l : Level) : Scan.Ready {} l {} := ⟨rfl, rfl⟩

theorem readInner_of_written {v : Verb} {ps : List Piece} {ws : List String}
    (hw : Written (.inner v) ps ws) {g : Gathered} (hg : Gathered.addAll (.inner v) {} ps = .ok g)
    {c : Command} (hc : g.command v = .ok c) : readInner v ws = .ok (g.globals, c) := by
  obtain ⟨t, hpass, hsettle, -⟩ := hw.passes (Scan.ready_start _) hg
  simp [readInner, hpass.readLevel, hsettle, hc, bind, Except.bind, pure, Except.pure]

/-- Words that say pieces on either side of a command word are read as what
the pieces come to. -/
theorem ofWords_of_written {v : Verb} {outer inner : List Piece} {wsOuter wsInner : List String}
    (ho : Written .outer outer wsOuter) (hi : Written (.inner v) inner wsInner)
    {go gi : Gathered} (hgo : Gathered.addAll .outer {} outer = .ok go)
    (hgi : Gathered.addAll (.inner v) {} inner = .ok gi) {c : Command}
    (hc : gi.command v = .ok c) :
    Invocation.ofWords (wsOuter ++ v.name :: wsInner)
      = .ok { globals := gi.globals.over go.globals, command := c } := by
  obtain ⟨t, hpass, hsettle, hready⟩ := ho.passes (Scan.ready_start _) hgo
  have hturn : t.turn v.name = .command v := by
    rw [Scan.turn, (hready outer_hasNoOperand).mayTurn, if_pos rfl, Verb.ofName?_name]
  rw [Invocation.ofWords, hpass.readOuter, readOuter, hturn]
  simp [readInner_of_written hi hgi hc, hsettle, bind, Except.bind, pure, Except.pure]

end BlockConfig.CommandLine
