import NodeDesk.Proofs.Http.Audit
import NodeDesk.Proofs.Log.Line
import NodeDesk.Proofs.Submission.Normal
/-!
# AuditLine — what the line of a confirmation tells

The ids that a confirmation chose stand in its line as one text, with commas between them, and ids may hold commas
themselves.  So the line tells the text and the number of the ids (`line_spamConfirmed_eq_iff`), and the ids only where
these two leave one way to take the text apart (`ids_of_line_spamConfirmed`).
-/
namespace NodeDesk

namespace Log
namespace Event

variable {n n' : Nat} {ids ids' : List String}

/-- **What two lines of confirmations agree on**: the number of nodes newly marked, and the number and the text of the
ids. -/
theorem line_spamConfirmed_eq_iff :
    (spamConfirmed n ids).record.line = (spamConfirmed n' ids').record.line ↔
      n = n' ∧ ids.length = ids'.length ∧ ",".intercalate ids = ",".intercalate ids' := by
  have hkeys : ∀ n ids, ((spamConfirmed n ids).record.fields.map Prod.fst).Pairwise fun k k' => ¬ k' < k := by
    intro n ids
    show List.Pairwise _ ["flagged", "node_ids", "selected"]
    decide
  rw [Record.line_inj (hkeys n ids) (hkeys n' ids'), ← @Decimal.text_inj n, ← @Decimal.text_inj ids.length]
  simp [record, and_comm, and_left_comm]

/-- **When a line tells the ids**: if there is one alone, or none of them holds a comma. -/
theorem ids_of_line_spamConfirmed (h : (spamConfirmed n ids).record.line = (spamConfirmed n' ids').record.line)
    (hids : ids.length = 1 ∨ ∀ id ∈ ids, ',' ∉ id.toList) : ids = ids' := by
  obtain ⟨-, hlength, htext⟩ := line_spamConfirmed_eq_iff.1 h
  have hchars := congrArg String.toList htext
  rw [String.toList_intercalate, String.toList_intercalate] at hchars
  refine (List.map_inj_right fun _ _ => String.toList_inj.1).1 ?_
  rcases hids with hone | hcomma
  · obtain ⟨id, rfl⟩ := List.length_eq_one_iff.1 hone
    obtain ⟨id', rfl⟩ := List.length_eq_one_iff.1 (hlength.symm.trans hone)
    simpa using hchars
  · exact Text.intercalate_inj (List.forall_mem_map.2 hcomma) (by simpa using hlength) hchars

end Event
end Log

namespace Http

/-- **The ids that a request confirms**: those that its form was read to choose, each once, and all of nodes that there
are. -/
structure Confirms (c : Catalogue) (r : Request) (ids : List String) : Prop where
  read : ∃ token, Submission.ofPairs (Url.Form.decode r.body) = .ok ⟨token, ids⟩
  nodup : ids.Nodup
  known : ∀ id ∈ ids, id ≠ "" ∧ c.contains id = true

theorem Confirms.eq_eraseDups {c : Catalogue} {r : Request} {ids : List String} (h : Confirms c r ids) :
    ids = r.chosen.eraseDups := by
  obtain ⟨token, hread⟩ := h.read
  exact (Submission.ofPairs_ok_iff.1 hread).2.2.2.2

namespace Desk

theorem confirms_of_accepted (d : Desk) (m : Moment) (c : Catalogue) (r : Request)
    (h : (d.handle m c r).reply.status = 303) :
    ∃ ids, Confirms c r ids ∧ (d.handle m c r).confirmations =
      [(Log.Event.spamConfirmed (c.newlyMarked (d.handle m c r).catalogue) ids).record] := by
  obtain ⟨horder, hknown⟩ := (d.accepted_iff m c r).1 h
  obtain ⟨token, htoken, hlast, -⟩ := horder.double.token
  have hmem : ∀ id ∈ r.chosen.eraseDups, id ∈ r.keys ∧ id ≠ View.tokenField := fun id hid =>
    Submission.mem_named_iff.1 (List.mem_eraseDups.1 hid)
  refine ⟨r.chosen.eraseDups, ⟨⟨token, ?_⟩, Submission.nodup_eraseDups _, fun id hid => ⟨?_, ?_⟩⟩, ?_⟩
  · obtain ⟨id, hid⟩ := List.exists_mem_of_ne_nil _ horder.chosen
    have hname := Submission.mem_named_iff.1 hid
    exact Submission.ofPairs_ok_iff.2 ⟨horder.keys, hlast, htoken, ⟨id, hname⟩, rfl⟩
  · rintro rfl
    exact horder.keys (hmem "" hid).1
  · exact hknown id (List.mem_eraseDups.1 hid)
  · have hconf := d.confirmations_handle m c r
    rw [if_pos h] at hconf
    rw [hconf, catalogue_handle_eq, if_pos h, c.newlyMarked_markAll, c.unmarked_congr fun _ => List.mem_eraseDups]

/-- **What the lines of two confirmations tell.**  Each leaves one record.  Their lines are the same exactly if as many
nodes were newly marked, and as many ids were confirmed, with the same text when commas are put between them.  So the
ids are the same too, if there is one alone or none of the first holds a comma. -/
theorem lines_of_confirmations (d d' : Desk) (m m' : Moment) (c c' : Catalogue) (r r' : Request)
    (h : (d.handle m c r).reply.status = 303) (h' : (d'.handle m' c' r').reply.status = 303) :
    ∃ ids ids' record record', Confirms c r ids ∧ Confirms c' r' ids' ∧
      (d.handle m c r).confirmations = [record] ∧ (d'.handle m' c' r').confirmations = [record'] ∧
      (record.line = record'.line ↔
        c.newlyMarked (d.handle m c r).catalogue = c'.newlyMarked (d'.handle m' c' r').catalogue ∧
          ids.length = ids'.length ∧ ",".intercalate ids = ",".intercalate ids') ∧
      (record.line = record'.line → ids.length = 1 ∨ (∀ id ∈ ids, ',' ∉ id.toList) → ids = ids') := by
  obtain ⟨ids, hids, hrecord⟩ := d.confirms_of_accepted m c r h
  obtain ⟨ids', hids', hrecord'⟩ := d'.confirms_of_accepted m' c' r' h'
  exact ⟨ids, ids', _, _, hids, hids', hrecord, hrecord', Log.Event.line_spamConfirmed_eq_iff,
    Log.Event.ids_of_line_spamConfirmed⟩

/-- One id that holds a comma, and two that are put together with one: the texts are the same, and the lines differ by
the number of ids. -/
theorem lines_of_one_and_two :
    let d : Desk := ⟨{}, ⟨[], 3600⟩, 10, false, none⟩
    let m : Moment := ⟨.epoch, List.replicate 16 0, "", 0⟩
    let c : Catalogue := ⟨[{ id := "a,b", created := .epoch }, { id := "a", created := .epoch },
      { id := "b", created := .epoch }], by decide, by decide⟩
    ∃ one two record record', Confirms c one ["a,b"] ∧ Confirms c two ["a", "b"] ∧
      (d.handle m c one).confirmations = [record] ∧ (d.handle m c two).confirmations = [record'] ∧
      record.line ≠ record'.line := by
  intro d m c
  have haccepts : d.guard.accepts (d.guard.issue m.now m.nonce) m.now = true := by
    rw [d.guard.accepts_issue m.now (by decide)]
    decide
  obtain ⟨one, hone, hchosen⟩ := @exists_accepted d m c ["a,b"] haccepts (by decide) (by decide) (by decide)
    (by decide +kernel)
  obtain ⟨two, htwo, hchosen'⟩ := @exists_accepted d m c ["a", "b"] haccepts (by decide) (by decide) (by decide)
    (by decide +kernel)
  obtain ⟨ids, ids', record, record', hids, hids', hrecord, hrecord', hline, -⟩ :=
    d.lines_of_confirmations d m m c c one two hone htwo
  obtain rfl : ids = ["a,b"] := by rw [hids.eq_eraseDups, hchosen]; rfl
  obtain rfl : ids' = ["a", "b"] := by rw [hids'.eq_eraseDups, hchosen']; rfl
  refine ⟨one, two, record, record', hids, hids', hrecord, hrecord', fun he => ?_⟩
  exact absurd (hline.1 he).2.1 (by decide)

/-- **Commas in ids hide where one ends.**  Two confirmations are accepted, of different nodes, and leave the same
line. -/
theorem lines_of_commas :
    let d : Desk := ⟨{}, ⟨Utf8.encode "key".toList, 3600⟩, 10, false, none⟩
    let m : Moment := ⟨⟨1700000000, 0, by decide, by decide, by decide⟩, [], "", 0⟩
    let c : Catalogue := ⟨[{ id := "a", created := .epoch }, { id := "b,c", created := .epoch },
      { id := "a,b", created := .epoch }, { id := "c", created := .epoch }], by decide, by decide⟩
    let token := "1700000000.AAAAAAAAAAAAAAAAAAAAAA.qX1GozmLb5j1LqH2yzO1yCVzGrbsd72-he1LDRnIJOE"
    let confirm : String → Request := fun chosen => ⟨"POST", ⟨confirmPath.toList, none⟩,
      [("content-type", Utf8.encode "application/x-www-form-urlencoded".toList),
        ("cookie", Utf8.encode ("csrftoken=" ++ token).toList)],
      Utf8.encode (chosen ++ "&csrfmiddlewaretoken=" ++ token).toList⟩
    let r := confirm "a=on&b%2Cc=on"
    let r' := confirm "a%2Cb=on&c=on"
    (d.handle m c r).reply.status = 303 ∧ (d.handle m c r').reply.status = 303 ∧ Confirms c r ["a", "b,c"] ∧
      Confirms c r' ["a,b", "c"] ∧ ["a", "b,c"] ≠ ["a,b", "c"] ∧ ∃ record record',
        (d.handle m c r).confirmations = [record] ∧ (d.handle m c r').confirmations = [record'] ∧
          record.line = record'.line := by
  intro d m c token confirm r r'
  have h303 : (d.handle m c r).reply.status = 303 := by decide +kernel
  have h303' : (d.handle m c r').reply.status = 303 := by decide +kernel
  have hchosen : r.chosen = ["a", "b,c"] := by decide +kernel
  have hchosen' : r'.chosen = ["a,b", "c"] := by decide +kernel
  obtain ⟨ids, hids, hrecord⟩ := d.confirms_of_accepted m c r h303
  obtain ⟨ids', hids', hrecord'⟩ := d.confirms_of_accepted m c r' h303'
  obtain rfl : ids = ["a", "b,c"] := by rw [hids.eq_eraseDups, hchosen]; rfl
  obtain rfl : ids' = ["a,b", "c"] := by rw [hids'.eq_eraseDups, hchosen']; rfl
  refine ⟨h303, h303', hids, hids', by decide, _, _, hrecord, hrecord', ?_⟩
  have hflagged : c.newlyMarked (d.handle m c r).catalogue = 2 := by
    rw [catalogue_handle_eq, if_pos h303, hchosen, c.newlyMarked_markAll]
    decide
  have hflagged' : c.newlyMarked (d.handle m c r').catalogue = 2 := by
    rw [catalogue_handle_eq, if_pos h303', hchosen', c.newlyMarked_markAll]
    decide
  exact Log.Event.line_spamConfirmed_eq_iff.2 ⟨hflagged.trans hflagged'.symm, rfl, by decide⟩

end Desk
end Http
end NodeDesk
