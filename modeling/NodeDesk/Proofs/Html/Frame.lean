import NodeDesk.Proofs.Html.Reader
/-!
# Frame — what of a document its texts cannot change

Escaped text holds none of the marks of markup (`harmless_escapeChars`).  The frame of a document is its markup alone,
without the texts between.  If every text stands in the text of an element or in a quoted value, the frame tells all
tags of the document and the names of their attributes (`outline_eq_frame`).
-/
namespace NodeDesk
namespace Html

/-! ## Escaped text -/

/-- What escaping writes for the five characters that mean something. -/
def entities : List (List Char) := ["&amp;", "&lt;", "&gt;", "&quot;", "&#x27;"].map String.toList

/-- **Text that cannot be taken for markup**: it holds no marks, and an ampersand begins an entity. -/
structure Harmless (cs : List Char) : Prop where
  marks : ∀ c ∈ cs, c ≠ '<' ∧ c ≠ '>' ∧ c ≠ '"' ∧ c ≠ '\''
  ampersands : ∀ pre post, cs = pre ++ '&' :: post → ∃ e ∈ entities, e.isPrefixOf ('&' :: post) = true

theorem escapeChar_entity (c : Char) :
    escapeChar c = [c] ∧ c ≠ '&' ∧ c ≠ '<' ∧ c ≠ '>' ∧ c ≠ '"' ∧ c ≠ '\'' ∨
      ∃ e, '&' :: e ∈ entities ∧ escapeChar c = '&' :: e := by
  unfold escapeChar
  split
  · exact .inr ⟨_, by decide, rfl⟩
  · exact .inr ⟨_, by decide, rfl⟩
  · exact .inr ⟨_, by decide, rfl⟩
  · exact .inr ⟨_, by decide, rfl⟩
  · exact .inr ⟨_, by decide, rfl⟩
  · rename_i hamp hlt hgt hquot hapos
    exact .inl ⟨rfl, hamp, hlt, hgt, hquot, hapos⟩

theorem of_mem_entity : ∀ e, '&' :: e ∈ entities → ∀ c ∈ e, c ≠ '&' ∧ c ≠ '<' ∧ c ≠ '>' ∧ c ≠ '"' ∧ c ≠ '\'' := by
  have hall : (entities.all fun e => e.tail.all fun c => c ≠ '&' ∧ c ≠ '<' ∧ c ≠ '>' ∧ c ≠ '"' ∧ c ≠ '\'') = true := by
    decide
  intro e he c hc
  exact of_decide_eq_true (List.all_eq_true.1 (List.all_eq_true.1 hall _ he) c hc)

theorem ampersand_escapeChar {c : Char} {pre post : List Char} (h : escapeChar c = pre ++ '&' :: post) :
    pre = [] ∧ '&' :: post ∈ entities := by
  have hmem : '&' ∈ pre ++ '&' :: post := List.mem_append_right pre List.mem_cons_self
  rcases escapeChar_entity c with ⟨hc, hne, -⟩ | ⟨e, he, hc⟩
  · rw [← h, hc, List.mem_singleton] at hmem
    exact absurd hmem.symm hne
  · rw [hc] at h
    cases pre with
    | nil => exact ⟨rfl, by rw [List.nil_append] at h; rwa [← h]⟩
    | cons p pre =>
      rw [List.cons_append, List.cons.injEq] at h
      have hin : '&' ∈ e := by rw [h.2]; exact List.mem_append_right pre List.mem_cons_self
      exact absurd rfl (of_mem_entity e he '&' hin).1

/-- **Escaped text is harmless.** -/
theorem harmless_escapeChars (cs : List Char) : Harmless (escapeChars cs) := by
  induction cs with
  | nil =>
    constructor
    · intro c hc
      cases hc
    · intro pre post h
      cases pre <;> cases h
  | cons c cs ih =>
    rw [escapeChars_cons]
    constructor
    · intro x hx
      rcases List.mem_append.1 hx with hx | hx
      · rcases escapeChar_entity c with ⟨hc, -, hmarks⟩ | ⟨e, he, hc⟩
        · rw [hc, List.mem_singleton] at hx
          exact hx ▸ hmarks
        · rw [hc] at hx
          rcases List.mem_cons.1 hx with rfl | hx
          · decide
          · exact (of_mem_entity e he x hx).2
      · exact ih.marks x hx
    · intro pre post h
      -- the ampersand stands behind the first character, or in what that is written as and then begins it
      rcases List.append_eq_append_iff.1 h with ⟨rest, -, hrest⟩ | ⟨rest, hrest, hpost⟩
      · exact ih.ampersands rest post hrest
      · cases rest with
        | nil => exact ih.ampersands [] post hpost.symm
        | cons r rest =>
          rw [List.cons_append, List.cons.injEq] at hpost
          obtain ⟨rfl, hpost⟩ := hpost
          obtain ⟨-, he⟩ := ampersand_escapeChar hrest
          exact ⟨_, he, List.isPrefixOf_iff_prefix.2 ⟨escapeChars cs, by rw [hpost]; rfl⟩⟩

/-! ## Tags without their texts -/

def Token.outline? : Token → Option (List Char × List (List Char))
  | .text _ => none
  | .tag name as => some (name, as.map Prod.fst)

/-- The tags of a document, in their order, with the names of their attributes. -/
def outline (document : String) : List (List Char × List (List Char)) :=
  (tokens document.toList).filterMap Token.outline?

def bare (as : List (List Char × List Char)) : List (List Char × List Char) := as.map fun a => (a.1, [])

/-- A state without the texts that were read. -/
def State.blank : State → State
  | .text _ => .text []
  | .name n => .name n
  | .inside n as => .inside n (bare as)
  | .key n as k => .key n (bare as) k
  | .equals n as k => .equals n (bare as) k
  | .quoted n as k _ => .quoted n (bare as) k []
  | .script missing => .script missing

@[simp] theorem map_fst_bare (as : List (List Char × List Char)) : (bare as).map Prod.fst = as.map Prod.fst := by
  simp [bare]

@[simp] theorem bare_bare (as : List (List Char × List Char)) : bare (bare as) = bare as := by simp [bare]

@[simp] theorem bare_append (as bs : List (List Char × List Char)) : bare (as ++ bs) = bare as ++ bare bs := by
  simp [bare]

@[simp] theorem bare_singleton (key raw : List Char) : bare [(key, raw)] = [(key, [])] := rfl

theorem blank_close (name : List Char) (as : List (List Char × List Char)) :
    (close name (bare as)).1.filterMap Token.outline? = (close name as).1.filterMap Token.outline? ∧
      (close name (bare as)).2.blank = (close name as).2.blank := by
  simp [close, Token.outline?]

theorem blank_step (s : State) (c : Char) :
    (step s.blank c).1.filterMap Token.outline? = (step s c).1.filterMap Token.outline? ∧
      (step s.blank c).2.blank = (step s c).2.blank := by
  cases s with
  | text raw =>
    by_cases h : c = '<'
    · simp only [step, State.blank, if_pos h]
      exact ⟨rfl, trivial⟩
    · simp [step, State.blank, h]
  | name name => exact ⟨rfl, rfl⟩
  | inside name as =>
    by_cases h : c = '>'
    · simp only [step, State.blank, if_pos h]
      exact blank_close name as
    · by_cases hs : c = ' ' <;> simp [step, State.blank, h, hs]
  | key name as key =>
    by_cases he : c = '='
    · simp [step, State.blank, he]
    by_cases h : c = '>'
    · have hclose := blank_close name (as ++ [(key, [])])
      rw [bare_append, bare_singleton] at hclose
      simp only [step, State.blank, if_neg he, if_pos h]
      exact hclose
    · by_cases hs : c = ' ' <;> simp [step, State.blank, he, h, hs]
  | equals name as key => by_cases h : c = '"' <;> simp [step, State.blank, h]
  | quoted name as key raw => by_cases h : c = '"' <;> simp [step, State.blank, h]
  | script missing => exact ⟨rfl, rfl⟩

theorem blank_run (cs : List Char) (s : State) :
    (run s.blank cs).1.filterMap Token.outline? = (run s cs).1.filterMap Token.outline? ∧
      (run s.blank cs).2.blank = (run s cs).2.blank := by
  induction cs generalizing s with
  | nil => cases s <;> simp [run, State.blank]
  | cons c cs ih =>
    obtain ⟨hout, hstate⟩ := blank_step s c
    obtain ⟨hout', hstate'⟩ := ih (step s.blank c).2
    obtain ⟨hout'', hstate''⟩ := ih (step s c).2
    rw [hstate] at hout' hstate'
    rw [run, run, List.filterMap_append, List.filterMap_append, hout, ← hout', ← hstate', hout'', hstate'']
    exact ⟨rfl, rfl⟩

/-- States that differ in their texts alone go on alike. -/
theorem run_of_blank_eq {s s' : State} (h : s.blank = s'.blank) (cs : List Char) :
    (run s cs).1.filterMap Token.outline? = (run s' cs).1.filterMap Token.outline? ∧
      (run s cs).2.blank = (run s' cs).2.blank := by
  obtain ⟨hout, hstate⟩ := blank_run cs s
  obtain ⟨hout', hstate'⟩ := blank_run cs s'
  rw [← hout, ← hout', ← hstate, ← hstate', h]
  exact ⟨rfl, rfl⟩

/-! ## Frames -/

/-- Whether a text may stand where the reader is. -/
def State.takesText : State → Bool
  | .text _ => true
  | .quoted _ _ _ _ => true
  | _ => false

def inPlace (s : State) : List Piece → Bool
  | [] => true
  | .markup m :: ps => inPlace (readPiece s (.markup m)).2 ps
  | .text t :: ps => s.takesText && inPlace (readPiece s (.text t)).2 ps

def Piece.isMarkup : Piece → Bool
  | .markup _ => true
  | .text _ => false

/-- Pieces without the texts between them. -/
def frame (ps : List Piece) : List Piece := ps.filter Piece.isMarkup

@[simp] theorem frame_markup (m : String) (ps : List Piece) : frame (.markup m :: ps) = .markup m :: frame ps := rfl

@[simp] theorem frame_text (t : String) (ps : List Piece) : frame (.text t :: ps) = frame ps := rfl

@[simp] theorem frame_append (ps qs : List Piece) : frame (ps ++ qs) = frame ps ++ frame qs := by simp [frame]

theorem inPlace_append (s : State) (ps qs : List Piece) :
    inPlace s (ps ++ qs) = (inPlace s ps && inPlace (readPieces s ps).2 qs) := by
  induction ps generalizing s with
  | nil => rfl
  | cons p ps ih =>
    cases p with
    | markup m => exact ih _
    | text t => rw [List.cons_append, inPlace, ih, inPlace, readPieces, Bool.and_assoc]

theorem readPiece_text {s : State} (h : s.takesText = true) (t : String) :
    (readPiece s (.text t)).1 = [] ∧ (readPiece s (.text t)).2.blank = s.blank := by
  cases s with
  | text raw => exact ⟨rfl, rfl⟩
  | quoted name as key raw => exact ⟨rfl, rfl⟩
  | _ => cases h

/-- **Pieces have the tags of their frame**, where their texts are in place. -/
theorem readPieces_frame (ps : List Piece) {s s' : State} (hs : s.blank = s'.blank) (h : inPlace s ps = true) :
    (readPieces s ps).1.filterMap Token.outline? = (readPieces s' (frame ps)).1.filterMap Token.outline? := by
  induction ps generalizing s s' with
  | nil => rfl
  | cons p ps ih =>
    cases p with
    | markup m =>
      obtain ⟨hout, hstate⟩ := run_of_blank_eq hs m.toList
      have hrest := ih hstate h
      rw [frame_markup, readPieces, readPieces, List.filterMap_append, List.filterMap_append]
      show (run s m.toList).1.filterMap _ ++ _ = (run s' m.toList).1.filterMap _ ++ _
      rw [hout]
      exact congrArg _ hrest
    | text t =>
      rw [inPlace, Bool.and_eq_true] at h
      obtain ⟨hout, hstate⟩ := readPiece_text h.1 t
      rw [frame_text, readPieces, hout, List.nil_append]
      exact ih (hstate.trans hs) h.2

/-- **A document has the tags of its frame.** -/
theorem outline_eq_frame {ps : List Piece} (h : inPlace (.text []) ps = true) :
    outline (render ps) = outline (render (frame ps)) := by
  unfold outline tokens render
  rw [String.toList_ofList, String.toList_ofList, run_chars, run_chars]
  exact readPieces_frame ps rfl h

end Html
end NodeDesk
