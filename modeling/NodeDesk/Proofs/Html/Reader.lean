import NodeDesk.Html.Piece
/-!
# Reader — what a browser reads in a document

A document is read character by character into texts and tags.  A tag has a name and attributes with quoted values,
and what follows a script up to its end is no markup.  Escaped text never ends the text or the value that it stands in
(`run_text`, `run_quoted`), so a list of pieces is read piece by piece (`run_chars`), and unescaping gives back what
was put in (`unescapeChars_escapeChars`).
-/
namespace NodeDesk
namespace Html

/-! ## Escaping -/

theorem unescapeChars_cons {c : Char} (h : c ≠ '&') (r : List Char) :
    unescapeChars (c :: r) = c :: unescapeChars r := by
  rw [unescapeChars]
  all_goals
    intros
    exact absurd ‹c = '&'› h

theorem escapeChar_cases (c : Char) :
    (∀ r, unescapeChars (escapeChar c ++ r) = c :: unescapeChars r) ∧ '<' ∉ escapeChar c ∧ '"' ∉ escapeChar c := by
  unfold escapeChar
  split
  · exact ⟨fun _ => rfl, by decide, by decide⟩
  · exact ⟨fun _ => rfl, by decide, by decide⟩
  · exact ⟨fun _ => rfl, by decide, by decide⟩
  · exact ⟨fun _ => rfl, by decide, by decide⟩
  · exact ⟨fun _ => rfl, by decide, by decide⟩
  · rename_i hamp hlt _ hquot _
    refine ⟨fun r => unescapeChars_cons (fun e => hamp e) r, ?_, ?_⟩
    · exact fun h => hlt (List.mem_singleton.1 h).symm
    · exact fun h => hquot (List.mem_singleton.1 h).symm

/-- **Unescaping undoes escaping.** -/
theorem unescapeChars_escapeChars : ∀ cs : List Char, unescapeChars (escapeChars cs) = cs
  | [] => rfl
  | c :: cs => by rw [escapeChars_cons, (escapeChar_cases c).1, unescapeChars_escapeChars cs]

theorem not_mem_escapeChars (cs : List Char) : '<' ∉ escapeChars cs ∧ '"' ∉ escapeChars cs := by
  constructor <;> intro h <;> obtain ⟨c, -, hc⟩ := List.mem_flatMap.1 h
  · exact (escapeChar_cases c).2.1 hc
  · exact (escapeChar_cases c).2.2 hc

/-! ## The reader -/

/-- What a document is read into. -/
inductive Token where
  /-- The text before a tag, as it is written. -/
  | text (raw : List Char)
  /-- A tag with its attributes, their values as they are written. -/
  | tag (name : List Char) (attributes : List (List Char × List Char))
  deriving Repr, DecidableEq

namespace Token

def isNamed (name : String) : Token → Bool
  | .text _ => false
  | .tag n _ => n = name.toList

def attribute? (key : String) : Token → Option String
  | .text _ => none
  | .tag _ as => (as.find? (·.1 = key.toList)).map fun a => String.ofList (unescapeChars a.2)

end Token

/-- Where the reader stands. -/
inductive State where
  | text (raw : List Char)
  | name (name : List Char)
  /-- Inside a tag, between its attributes. -/
  | inside (name : List Char) (attributes : List (List Char × List Char))
  | key (name : List Char) (attributes : List (List Char × List Char)) (key : List Char)
  /-- Behind an equals sign, before the quotation mark. -/
  | equals (name : List Char) (attributes : List (List Char × List Char)) (key : List Char)
  | quoted (name : List Char) (attributes : List (List Char × List Char)) (key raw : List Char)
  /-- Inside a script, with what is still missing of its end. -/
  | script (missing : List Char)
  deriving Repr, DecidableEq

def scriptEnd : List Char := "</script>".toList

def close (name : List Char) (attributes : List (List Char × List Char)) : List Token × State :=
  ([.tag name attributes], if name = "script".toList then .script scriptEnd else .text [])

def step : State → Char → List Token × State
  | .text raw, c => if c = '<' then ([.text raw], .name []) else ([], .text (raw ++ [c]))
  | .name name, c =>
    if c = '>' then close name [] else if c = ' ' then ([], .inside name []) else ([], .name (name ++ [c]))
  | .inside name as, c =>
    if c = '>' then close name as else if c = ' ' then ([], .inside name as) else ([], .key name as [c])
  | .key name as key, c =>
    if c = '=' then ([], .equals name as key)
    else if c = '>' then close name (as ++ [(key, [])])
    else if c = ' ' then ([], .inside name (as ++ [(key, [])]))
    else ([], .key name as (key ++ [c]))
  | .equals name as key, c => if c = '"' then ([], .quoted name as key []) else ([], .equals name as key)
  | .quoted name as key raw, c =>
    if c = '"' then ([], .inside name (as ++ [(key, raw)])) else ([], .quoted name as key (raw ++ [c]))
  | .script missing, c =>
    if missing.head? = some c then
      if missing.tail = [] then ([.tag "/script".toList []], .text []) else ([], .script missing.tail)
    else ([], .script (if c = '<' then scriptEnd.tail else scriptEnd))

def run (s : State) : List Char → List Token × State
  | [] => ([], s)
  | c :: r => ((step s c).1 ++ (run (step s c).2 r).1, (run (step s c).2 r).2)

/-- What a document is read into. -/
def tokens (document : List Char) : List Token := (run (.text []) document).1

theorem run_append (s : State) (cs ds : List Char) :
    run s (cs ++ ds) = ((run s cs).1 ++ (run (run s cs).2 ds).1, (run (run s cs).2 ds).2) := by
  induction cs generalizing s with
  | nil => rfl
  | cons c cs ih => rw [List.cons_append, run, run, ih, List.append_assoc]

theorem run_of_append {s s' s'' : State} {cs ds : List Char} {ts us : List Token} (h : run s cs = (ts, s'))
    (h' : run s' ds = (us, s'')) : run s (cs ++ ds) = (ts ++ us, s'') := by
  rw [run_append, h, h']

theorem run_text : ∀ {cs : List Char} (raw : List Char), '<' ∉ cs → run (.text raw) cs = ([], .text (raw ++ cs))
  | [], raw, _ => by rw [List.append_nil]; rfl
  | c :: cs, raw, h => by
    have hc : c ≠ '<' := fun e => h (e ▸ List.mem_cons_self)
    rw [run, step, if_neg hc]
    dsimp only
    rw [run_text _ fun hm => h (List.mem_cons_of_mem c hm), List.append_assoc]
    rfl

theorem run_quoted {name : List Char} {as : List (List Char × List Char)} {key : List Char} :
    ∀ {cs : List Char} (raw : List Char), '"' ∉ cs →
      run (.quoted name as key raw) cs = ([], .quoted name as key (raw ++ cs))
  | [], raw, _ => by rw [List.append_nil]; rfl
  | c :: cs, raw, h => by
    have hc : c ≠ '"' := fun e => h (e ▸ List.mem_cons_self)
    rw [run, step, if_neg hc]
    dsimp only
    rw [run_quoted _ fun hm => h (List.mem_cons_of_mem c hm), List.append_assoc]
    rfl

/-! ## Pieces -/

/-- Reads a piece: markup character by character, and text as a whole where it is text or a value. -/
def readPiece (s : State) : Piece → List Token × State
  | .markup m => run s m.toList
  | .text t =>
    match s with
    | .text raw => ([], .text (raw ++ escapeChars t.toList))
    | .quoted name as key raw => ([], .quoted name as key (raw ++ escapeChars t.toList))
    | s => run s (escapeChars t.toList)

def readPieces (s : State) : List Piece → List Token × State
  | [] => ([], s)
  | p :: ps => ((readPiece s p).1 ++ (readPieces (readPiece s p).2 ps).1, (readPieces (readPiece s p).2 ps).2)

theorem readPiece_eq (s : State) (p : Piece) : readPiece s p = run s p.chars := by
  cases p with
  | markup m => rfl
  | text t =>
    cases s with
    | text raw => exact (run_text raw (not_mem_escapeChars t.toList).1).symm
    | quoted name as key raw => exact (run_quoted raw (not_mem_escapeChars t.toList).2).symm
    | _ => rfl

/-- **A document is read piece by piece.** -/
theorem run_chars (s : State) (ps : List Piece) : run s (chars ps) = readPieces s ps := by
  induction ps generalizing s with
  | nil => rfl
  | cons p ps ih => rw [chars_cons, run_append, readPieces, readPiece_eq, ih]

theorem readPieces_append (s : State) (ps qs : List Piece) :
    readPieces s (ps ++ qs) =
      ((readPieces s ps).1 ++ (readPieces (readPieces s ps).2 qs).1, (readPieces (readPieces s ps).2 qs).2) := by
  rw [← run_chars, chars_append, run_append, run_chars, run_chars]

end Html
end NodeDesk
