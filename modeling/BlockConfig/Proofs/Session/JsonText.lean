/-
BlockConfig.Proofs.Session.JsonText — a handle as a JSON text.

Both texts of a handle, the compact and the pretty one, are read back as
the pairs that the handle lists, in their order. They differ in blanks
outside of strings only. So the compact text says what a handle shows and
nothing else: two handles have one text exactly if they show the same,
whatever their storages, scopes and locks are (`json_reads_back`). Keys and
values may hold any characters.
-/
import BlockConfig.Proofs.Session.Export
import BlockConfig.Proofs.Text.JsonReading

namespace BlockConfig

/-- Stores have the same compact text when they show the same. -/
theorem Store.compact_eq_compact_iff {s t : Store} :
    Json.compact s.entries.toList = Json.compact t.entries.toList ↔ s.entries = t.entries := by
  constructor
  · intro htext
    have hread : some s.entries.toList = some t.entries.toList := by
      rw [← Json.read?_compact, ← Json.read?_compact, htext]
    exact Table.toList_inj.1 (Option.some.inj hread)
  · intro hentries
    rw [hentries]

namespace Session

variable {s : Session} {h : Nat} {store : Store}

/-- The texts of a handle that lists some pairs. -/
structure Renders (s : Session) (h : Nat) (pairs : List (String × String))
    (compact pretty : String) : Prop where
  entries : (s.step (.ask h .entries)).answer = .entries pairs
  nodup : (pairs.map Prod.fst).Nodup
  json : (s.step (.ask h .json)).answer = .text compact
  jsonPretty : (s.step (.ask h .jsonPretty)).answer = .text pretty
  reads : Json.read? compact = some pairs
  readsPretty : Json.read? pretty = some pairs
  /-- Without the blanks outside of strings the two texts are one. -/
  blanks : Json.withoutBlanks pretty = Json.withoutBlanks compact
  /-- Another handle has the same compact text exactly if it is equal. -/
  same : ∀ (g : Nat) (other : Store), s.store? g = some other →
    ((s.step (.ask g .json)).answer = .text compact
      ↔ (s.step (.showsSame h g)).answer = .flag true)

/-- Every handle, in every session, has two texts from which a reader gets
what the handle lists, each key once and in order. They tell it from the
handles that show anything else. -/
theorem json_reads_back (hs : s.store? h = some store) :
    ∃ pairs compact pretty, s.Renders h pairs compact pretty := by
  refine ⟨store.entries.toList, Json.compact store.entries.toList,
    Json.pretty store.entries.toList, ?_⟩
  constructor
  case entries => exact answer_ask hs .entries
  case nodup => exact store.entries.sorted.nodup_keys
  case json => exact answer_ask hs .json
  case jsonPretty => exact answer_ask hs .jsonPretty
  case reads => exact Json.read?_compact _
  case readsPretty => exact Json.read?_pretty _
  case blanks => rw [Json.withoutBlanks_pretty, Json.withoutBlanks_compact]
  case same =>
    intro g other hg
    rw [answer_ask hg, answer_showsSame hs hg, Store.answer, Answer.text.injEq,
      Store.compact_eq_compact_iff, Answer.flag.injEq, decide_eq_true_iff]
    exact eq_comm

/-- Quotation marks, backslashes, controls and characters beyond the basic
plane, in a block and in a store of its own that has a lock; the whole that
the block is in shows something else. -/
theorem json_of_controls :
    let s := (Session.run {} [.createFrom [("b:\"q\"", "\\ \x00\x1f\n"), ("b:😀", "/ é"), ("c", "")],
      .view 0 "b", .createFrom [("😀", "/ é"), ("\"q\"", "\\ \x00\x1f\n")],
      .edit 2 (.lock "\"q\"")]).1
    ∃ pairs compact pretty, s.Renders 1 pairs compact pretty
      ∧ pairs = [("\"q\"", "\\ \x00\x1f\n"), ("😀", "/ é")]
      ∧ compact = "\x7b\"\\\"q\\\"\":\"\\\\ \\u0000\\u001f\\n\",\"😀\":\"/ é\"\x7d"
      ∧ (s.step (.ask 2 .json)).answer = .text compact
      ∧ (s.step (.ask 0 .json)).answer ≠ .text compact := by
  intro s
  have hs : s.store? 1 = some ⟨⟨.ofList [("b:\"q\"", "\\ \x00\x1f\n"), ("b:😀", "/ é"), ("c", "")],
      .empty⟩, "b:"⟩ := by decide
  have hother : s.store? 2 = some ⟨⟨.ofList [("\"q\"", "\\ \x00\x1f\n"), ("😀", "/ é")],
      .ofList [("\"q\"", ())]⟩, ""⟩ := by decide
  have hwhole : s.store? 0 = some ⟨⟨.ofList [("b:\"q\"", "\\ \x00\x1f\n"), ("b:😀", "/ é"),
      ("c", "")], .empty⟩, ""⟩ := by decide
  obtain ⟨pairs, compact, pretty, hrenders⟩ := json_reads_back hs
  refine ⟨pairs, compact, pretty, hrenders, ?_, ?_, ?_, ?_⟩
  · exact Answer.entries.inj (hrenders.entries.symm.trans (by decide))
  · exact Answer.text.inj (hrenders.json.symm.trans (by decide))
  · exact (hrenders.same 2 _ hother).2 (by decide)
  · exact mt (hrenders.same 0 _ hwhole).1 (by decide)

end Session

end BlockConfig
