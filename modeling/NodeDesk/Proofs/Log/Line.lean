import Mathlib.Data.List.Forall2
import Mathlib.Data.List.Nodup
import Mathlib.Data.String.Basic
import NodeDesk.Log.Record
import NodeDesk.Proofs.Json.Reads
import NodeDesk.Proofs.Text.Cut
import NodeDesk.Proofs.Text.Order
/-!
# Line — a line of the log reads back

The fields of a line stand in the order of the bytes of their keys (`Arranged`), and a line is the only one that tells
of its record (`line_eq_iff`).  No character below the space is written into it, so a log is taken apart at its line
breaks, and each line is read as the object that tells of its record (`lines_read_back`).
-/
namespace NodeDesk
namespace Log

open Json (Value)

/-- **Fields in the order of a line**: each that was given once, by the bytes of the keys, and those with the same key
as they were given. -/
structure Arranged (given fields : List (String × String)) : Prop where
  perm : fields.Perm given
  sorted : fields.Pairwise fun a b => Utf8.encode a.1.toList ≤ Utf8.encode b.1.toList
  stable : ∀ key, fields.filter (·.1 = key) = given.filter (·.1 = key)

/-- A log is read line by line, each line as a document; what follows the last line break is no line. -/
def readLog (log : String) : List (Except Json.Fault Value) :=
  (Text.parts '\n' log.toList).dropLast.map (Json.document (Value.read Json.maxDepth))

theorem Severity.eq_of_name {s t : Severity} (h : s.name = t.name) : s = t := by
  revert h
  cases s <;> cases t <;> decide

namespace Record

/-- **A value that tells of a record**: an object of the event, the severity and all the fields. -/
def Tells (r : Record) (v : Value) : Prop :=
  ∃ fields, Arranged r.fields fields ∧
    v = .object ((("event", r.event) :: ("severity", r.severity.name) :: fields).map fun m => (m.1, .string m.2))

/-! ## The order of the fields -/

theorem keyLe_iff {a b : String × String} : keyLe a b = true ↔ Utf8.encode a.1.toList ≤ Utf8.encode b.1.toList := by
  unfold keyLe
  rw [Bool.not_eq_true', decide_eq_false_iff_not, String.lt_iff_toList_lt, ← Utf8.encode_lt_iff, List.not_lt]

theorem keyLe_trans (a b c : String × String) (h : keyLe a b = true) (h' : keyLe b c = true) : keyLe a c = true :=
  keyLe_iff.2 (List.le_trans (keyLe_iff.1 h) (keyLe_iff.1 h'))

theorem keyLe_total (a b : String × String) : (keyLe a b || keyLe b a) = true := by
  rw [Bool.or_eq_true, keyLe_iff, keyLe_iff]
  exact List.le_total _ _

theorem keyLe_of_eq {a b : String × String} (h : a.1 = b.1) : keyLe a b = true := by
  rw [keyLe_iff, h]
  exact List.le_refl _

theorem eq_of_keyLe {a b : String × String} (h : keyLe a b = true) (h' : keyLe b a = true) : a.1 = b.1 :=
  String.toList_inj.1 (Utf8.encode_inj (List.le_antisymm (keyLe_iff.1 h) (keyLe_iff.1 h')))

theorem pairwise_mergeSort (fields : List (String × String)) :
    (fields.mergeSort keyLe).Pairwise fun a b => keyLe a b = true :=
  List.pairwise_mergeSort keyLe_trans keyLe_total fields

theorem arranged_mergeSort (fields : List (String × String)) : Arranged fields (fields.mergeSort keyLe) where
  perm := List.mergeSort_perm fields keyLe
  sorted := (pairwise_mergeSort fields).imp keyLe_iff.1
  stable key := by
    -- Those with the key are in order already, so sorting keeps them as they are.
    have hsorted : (fields.filter (·.1 = key)).Pairwise fun a b => keyLe a b = true := by
      refine List.pairwise_of_forall_mem_list fun a ha b hb => keyLe_of_eq ?_
      rw [of_decide_eq_true (List.mem_filter.1 ha).2, of_decide_eq_true (List.mem_filter.1 hb).2]
    have hkept := List.sublist_mergeSort keyLe_trans keyLe_total hsorted List.filter_sublist
    have hfilter := hkept.filter (·.1 = key)
    rw [List.filter_filter] at hfilter
    simp only [Bool.and_self] at hfilter
    exact (hfilter.eq_of_length ((List.mergeSort_perm fields keyLe).filter _).length_eq.symm).symm

/-- **Fields with different keys are sorted alike in any order** that they are given in. -/
theorem mergeSort_eq_iff {fields given : List (String × String)} (h : (fields.map Prod.fst).Nodup) :
    fields.mergeSort keyLe = given.mergeSort keyLe ↔ fields.Perm given := by
  have hfields := List.mergeSort_perm fields keyLe
  have hgiven := List.mergeSort_perm given keyLe
  refine ⟨fun he => hfields.symm.trans (he ▸ hgiven), fun hperm => ?_⟩
  have hsame := (hfields.trans hperm).trans hgiven.symm
  refine hsame.eq_of_pairwise (fun a b ha hb hab hba => ?_) (pairwise_mergeSort fields) (pairwise_mergeSort given)
  exact List.inj_on_of_nodup_map h (hfields.mem_iff.1 ha) (hfields.mem_iff.1 (hsame.mem_iff.2 hb)) (eq_of_keyLe hab hba)

/-! ## One line -/

def value (r : Record) : Value := .object (r.members.map fun m => (m.1, .string m.2))

theorem toList_line (r : Record) : r.line.toList = r.value.write ++ ['\n'] := String.toList_ofList

theorem tells_value (r : Record) : r.Tells r.value := ⟨_, arranged_mergeSort r.fields, rfl⟩

theorem document_value (r : Record) : Json.document (Value.read Json.maxDepth) r.value.write = .ok r.value := by
  refine Json.document_of_reads (Value.reads_object fun m hm => ?_)
  obtain ⟨p, -, rfl⟩ := List.mem_map.1 hm
  exact Value.reads_string _ p.2

theorem le_of_mem_writeMembers {ms : List (String × String)} {c : Char}
    (h : c ∈ Value.writeMembers (ms.map fun m => (m.1, .string m.2))) : ¬ c < ' ' := by
  have hmember : ∀ m : String × String, c ∈ Json.Quoted.write m.1 ++ ':' :: (Value.string m.2).write → ¬ c < ' ' := by
    intro m hm
    rcases List.mem_append.1 hm with hm | hm
    · exact Json.Quoted.le_of_mem_write hm
    · rcases List.mem_cons.1 hm with rfl | hm
      · decide
      · exact Json.Quoted.le_of_mem_write hm
  induction ms with
  | nil => cases h
  | cons m ms ih =>
    by_cases hms : ms = []
    · subst hms
      rw [List.map_singleton, Value.writeMembers] at h
      exact hmember m h
    · rw [List.map_cons, Json.writeMembers_cons _ _ (by simpa using hms)] at h
      rcases List.mem_append.1 h with h | h
      · exact hmember m h
      · rcases List.mem_cons.1 h with rfl | h
        · decide
        · exact ih h

theorem break_not_mem (r : Record) : '\n' ∉ r.value.write := by
  intro h
  unfold value at h
  rw [Value.write, List.mem_append, List.mem_cons, List.mem_singleton] at h
  rcases h with (h | h) | h
  · exact absurd h (by decide)
  · exact le_of_mem_writeMembers h (by decide)
  · exact absurd h (by decide)

theorem line_eq_iff_members {r r' : Record} : r.line = r'.line ↔ r.members = r'.members := by
  constructor
  · intro h
    have hlists := congrArg String.toList h
    rw [toList_line, toList_line] at hlists
    have hread := r.document_value
    rw [List.append_cancel_right hlists, r'.document_value] at hread
    have hvalue : r'.value = r.value := Except.ok.inj hread
    refine (List.map_inj_right fun m m' hm => ?_).1 (Value.object.inj hvalue).symm
    obtain ⟨hkey, hstring⟩ := Prod.mk.inj hm
    exact Prod.ext hkey (Value.string.inj hstring)
  · intro h
    unfold line lineChars
    rw [h]

/-- **A line is that of one record alone**, but for the order in which its fields were given. -/
theorem line_eq_iff {r r' : Record} (h : (r.fields.map Prod.fst).Nodup) :
    r.line = r'.line ↔ r.severity = r'.severity ∧ r.event = r'.event ∧ r.fields.Perm r'.fields := by
  rw [line_eq_iff_members, ← mergeSort_eq_iff h]
  unfold members
  simp only [List.cons.injEq, Prod.mk.injEq, true_and]
  exact ⟨fun ⟨he, hs, hf⟩ => ⟨Severity.eq_of_name hs, he, hf⟩, fun ⟨hs, he, hf⟩ => ⟨he, congrArg _ hs, hf⟩⟩

theorem mergeSort_of_keys {fields : List (String × String)} (h : (fields.map Prod.fst).Pairwise fun k k' => ¬ k' < k) :
    fields.mergeSort keyLe = fields := by
  refine List.mergeSort_of_pairwise ((List.pairwise_map.1 h).imp fun {a b} hab => ?_)
  rw [keyLe, decide_eq_false hab, Bool.not_false]

/-- **A record is told by its line** if its fields were given in the order of their keys. -/
theorem line_inj {r r' : Record} (h : (r.fields.map Prod.fst).Pairwise fun k k' => ¬ k' < k)
    (h' : (r'.fields.map Prod.fst).Pairwise fun k k' => ¬ k' < k) : r.line = r'.line ↔ r = r' := by
  refine ⟨fun he => ?_, congrArg line⟩
  have hmembers := line_eq_iff_members.1 he
  unfold members at hmembers
  rw [mergeSort_of_keys h, mergeSort_of_keys h'] at hmembers
  injection hmembers with hevent hmore
  injection hmore with hseverity hfields
  obtain ⟨severity, event, fields⟩ := r
  obtain ⟨severity', event', fields'⟩ := r'
  obtain rfl : event = event' := (Prod.mk.inj hevent).2
  obtain rfl : severity = severity' := Severity.eq_of_name (Prod.mk.inj hseverity).2
  obtain rfl : fields = fields' := hfields
  rfl

/-! ## A log -/

theorem parts_log (records : List Record) :
    Text.parts '\n' (String.join (records.map line)).toList = records.map (fun r => r.value.write) ++ [[]] := by
  rw [String.toList_join]
  induction records with
  | nil => rfl
  | cons r records ih =>
    rw [List.map_cons, List.flatMap_cons, toList_line, List.append_assoc, List.singleton_append,
      Text.parts_append r.break_not_mem, ih]
    rfl

theorem readLog_eq (records : List Record) :
    readLog (String.join (records.map line)) = (records.map value).map .ok := by
  unfold readLog
  rw [parts_log, List.dropLast_concat, List.map_map, List.map_map]
  refine List.map_congr_left fun r _ => ?_
  rw [Function.comp_apply, Function.comp_apply, r.document_value]

/-- **A log reads back.**  A line has one line break, at its end, and the rest of it is read as the object that tells of
its record.  Two lines are the same, if the fields of the first have different keys, exactly if the records are the same
but for the order of their fields.  And a log is read as one object for each of its records, whatever those hold. -/
theorem lines_read_back :
    (∀ r : Record, ∃ body v, r.line.toList = body ++ ['\n'] ∧ '\n' ∉ body ∧
      Json.document (Value.read Json.maxDepth) body = .ok v ∧ r.Tells v) ∧
    (∀ r r' : Record, (r.fields.map Prod.fst).Nodup →
      (r.line = r'.line ↔ r.severity = r'.severity ∧ r.event = r'.event ∧ r.fields.Perm r'.fields)) ∧
    ∀ records : List Record, ∃ vs, List.Forall₂ Tells records vs ∧
      readLog (String.join (records.map line)) = vs.map .ok := by
  refine ⟨fun r => ⟨r.value.write, r.value, r.toList_line, r.break_not_mem, r.document_value, r.tells_value⟩,
    fun _ _ => line_eq_iff, fun records => ⟨records.map value, ?_, readLog_eq records⟩⟩
  exact List.forall₂_map_right_iff.2 (List.forall₂_same.2 fun r _ => r.tells_value)

/-- A value with the text of a line's end in it: it is one line whichever field is given first, and two of them are read
as two. -/
theorem lines_of_broken_value :
    let r : Record := ⟨.warn, "E", [("b", "1\"\x7d\n\x7b\"event\":\"F"), ("a", "\\")]⟩
    let r' : Record := ⟨.warn, "E", [("a", "\\"), ("b", "1\"\x7d\n\x7b\"event\":\"F")]⟩
    r.line = r'.line ∧ ∃ v v', r.Tells v ∧ r'.Tells v' ∧
      readLog (String.join ([r, r'].map line)) = [.ok v, .ok v'] := by
  intro r r'
  refine ⟨(lines_read_back.2.1 r r' (by decide)).2 ⟨rfl, rfl, List.Perm.swap _ _ []⟩, ?_⟩
  obtain ⟨vs, htells, hread⟩ := lines_read_back.2.2 [r, r']
  obtain ⟨v, vs, hv, hmore, rfl⟩ := List.forall₂_cons_left_iff.1 htells
  obtain ⟨v', vs, hv', hnone, rfl⟩ := List.forall₂_cons_left_iff.1 hmore
  cases hnone
  exact ⟨v, v', hv, hv', hread⟩

end Record
end Log
end NodeDesk
