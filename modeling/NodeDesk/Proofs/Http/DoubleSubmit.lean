import NodeDesk.Proofs.Http.Verdict
/-!
# DoubleSubmit — no mark without a token that comes twice

A request changes the catalogue only if it is a `POST` to the confirmation whose form and cookie carry the same token
and the guard accepts it (`handle_kept_or_doubleSubmit`).  All it then changes is unset marks of nodes that its form
names, and so it is after any run of requests (`after_doubleSubmit`).
-/
namespace NodeDesk
namespace Http

open Catalogue (Marked forall₂_marked_refl forall₂_marked_trans marked_markAll)
open Submission (lastToken? named)

/-- The names of a form, the token field among them. -/
def Request.keys (r : Request) : List String := (Url.Form.decode r.body).map Prod.fst

/-- **A valid double submit**: a form for the confirmation whose token is not empty, stands in its cookie as well and
is accepted at this moment. -/
structure DoubleSubmit (d : Desk) (m : Moment) (r : Request) : Prop where
  method : r.method = "POST"
  path : r.target.path = confirmPath.toList
  form : Desk.formOf r = .ok (Url.Form.decode r.body)
  token : ∃ token, token ≠ "" ∧ lastToken? (Url.Form.decode r.body) = some token ∧
    Desk.cookieOf r = some token ∧ d.guard.accepts token m.now = true

namespace Desk

variable (d : Desk) (m : Moment) (c : Catalogue) (r : Request)

/-- The catalogue after requests, each at its moment. -/
def after (d : Desk) (c : Catalogue) : List (Moment × Request) → Catalogue
  | [] => c
  | s :: rs => d.after (d.handle s.1 c s.2).catalogue rs

/-- **What a request can leave behind**: the catalogue as it was, or, after a valid double submit, with the marks of
some nodes set that its form names. -/
theorem handle_kept_or_doubleSubmit :
    (d.handle m c r).catalogue = c ∨
      DoubleSubmit d m r ∧ ∃ ids, (∀ id ∈ ids, id ∈ r.keys) ∧ (d.handle m c r).catalogue = c.markAll ids := by
  rcases d.catalogue_handle m c r with h | ⟨q, pairs, h, hc⟩
  · exact .inl h
  rw [d.confirm_eq, Verdict.catalogue_outcome] at hc
  by_cases hv : verdict d.guard m.now c (cookieOf r) pairs = .confirmed
  · rw [if_pos hv] at hc
    have hpairs : pairs = Url.Form.decode r.body := (formOf_eq_ok_iff.1 h.form).2.2
    subst hpairs
    have hids : ∀ id ∈ (named (Url.Form.decode r.body)).eraseDups, id ∈ r.keys := fun id hid =>
      (Submission.mem_named_iff.1 (List.mem_eraseDups.1 hid)).1
    exact .inr ⟨⟨h.method, h.path, h.form, (verdict_eq_confirmed_iff.1 hv).2.1⟩, _, hids, hc⟩
  · rw [if_neg hv] at hc
    exact .inl hc

/-- A run of requests leaves what one marking leaves. -/
theorem after_eq_markAll (rs : List (Moment × Request)) : ∃ ids, d.after c rs = c.markAll ids := by
  induction rs generalizing c with
  | nil => exact ⟨[], c.markAll_nil.symm⟩
  | cons s rs ih =>
    obtain ⟨more, hmore⟩ := ih (d.handle s.1 c s.2).catalogue
    rcases d.handle_kept_or_doubleSubmit s.1 c s.2 with h | ⟨-, ids, -, h⟩
    · rw [h] at hmore
      exact ⟨more, by rw [after, h, hmore]⟩
    · rw [h, c.markAll_markAll] at hmore
      exact ⟨ids ++ more, by rw [after, h, hmore]⟩

theorem marked_handle :
    List.Forall₂ (Marked fun id => DoubleSubmit d m r ∧ id ∈ r.keys) c.nodes (d.handle m c r).catalogue.nodes := by
  rcases d.handle_kept_or_doubleSubmit m c r with h | ⟨hd, ids, hids, h⟩
  · rw [h]
    exact forall₂_marked_refl _ _
  · rw [h]
    exact (marked_markAll c ids).imp fun _ _ => Marked.imp fun id hid => ⟨hd, hids id hid⟩

theorem marked_after (rs : List (Moment × Request)) :
    List.Forall₂ (Marked fun id => ∃ s ∈ rs, DoubleSubmit d s.1 s.2 ∧ id ∈ s.2.keys) c.nodes (d.after c rs).nodes := by
  induction rs generalizing c with
  | nil => exact forall₂_marked_refl _ _
  | cons s rs ih =>
    have hstep := (d.marked_handle s.1 c s.2).imp fun _ _ => Marked.imp
      fun id h => show ∃ t ∈ s :: rs, DoubleSubmit d t.1 t.2 ∧ id ∈ t.2.keys from ⟨s, List.mem_cons_self, h⟩
    have hrest := (ih (d.handle s.1 c s.2).catalogue).imp fun _ _ => Marked.imp
      fun id h => show ∃ t ∈ s :: rs, DoubleSubmit d t.1 t.2 ∧ id ∈ t.2.keys from
        h.imp fun _ ht => ⟨List.mem_cons_of_mem _ ht.1, ht.2⟩
    exact forall₂_marked_trans hstep hrest

/-- **No mark without a valid double submit.**  After any run, whatever the next request is: the catalogue stays as it
was or the request is a valid double submit, and then only unset marks of nodes that it names are set.  And over the
whole run a mark was set only for a node that a valid double submit of the run names; nothing else has changed. -/
theorem after_doubleSubmit (rs : List (Moment × Request)) :
    let now := d.after c rs
    (∀ m r, ((d.handle m now r).catalogue = now ∨ DoubleSubmit d m r) ∧
      List.Forall₂ (Marked (· ∈ r.keys)) now.nodes (d.handle m now r).catalogue.nodes) ∧
    List.Forall₂ (Marked fun id => ∃ s ∈ rs, DoubleSubmit d s.1 s.2 ∧ id ∈ s.2.keys) c.nodes now.nodes := by
  intro now
  refine ⟨fun m r => ⟨?_, ?_⟩, d.marked_after c rs⟩
  · exact (d.handle_kept_or_doubleSubmit m now r).imp id And.left
  · exact (d.marked_handle m now r).imp fun _ _ => Marked.imp fun _ h => h.2

end Desk
end Http
end NodeDesk
