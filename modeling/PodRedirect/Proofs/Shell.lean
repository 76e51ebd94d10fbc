import PodRedirect.Shell

/-!
# Reading a shell's command lines

What a POSIX shell takes from a text before it runs anything: simple commands, each of them the
list of its words. A line end closes a command, blanks divide words, quotes are taken away, and a
number sign at the start of a word begins a comment. Operators, expansions and escapes are not read:
at a character that stands for one of these outside single quotes the reader gives up. What a word
means to the shell, such as a reserved word or an assignment, is no matter of reading.

## Main definitions

* `Shell.Reader`: what was read of a text so far, with `Shell.Reader.step` for a character
* `Shell.read`: the commands of a text
* `Shell.Says`: a text of whole lines has the given commands, wherever it stands

## Main results

* `Shell.reads_word`: a word with its quotes is read as the word
* `Shell.says_join`: the line of a command is read as the command
* `Shell.says_comment`: a comment of one line is read as nothing
-/

namespace PodRedirect.Shell

/-! ## The reader -/

/-- Where the next character stands. -/
inductive Place where
  | between
  | word
  | single
  | double
  | comment
  deriving DecidableEq, Repr

/-- What was read of a text so far: the word that has begun, the words of the command that has
begun, and the commands that have ended. -/
structure Reader where
  place : Place
  word : List Char
  words : List String
  commands : List (List String)
  deriving DecidableEq, Repr

/-- The marks that are operators or part of one, or begin an expansion or an escape. -/
def specialMarks : List Char :=
  ['|', '&', ';', '<', '>', '(', ')', '$', '\x60', '\\', '*', '?', '[', '~']

/-- A character that has a meaning of its own outside quotes, and is no blank or quote. -/
def isSpecial (c : Char) : Bool := specialMarks.contains c

/-- The marks that begin an expansion or an escape between double quotes. -/
def activeMarks : List Char := ['$', '\x60', '\\']

/-- A character that has a meaning of its own between double quotes. -/
def isActive (c : Char) : Bool := activeMarks.contains c

namespace Reader

/-- The reader before a line, after the given commands. -/
def fresh (commands : List (List String)) : Reader := ⟨.between, [], [], commands⟩

/-- The word that has begun ends, if there is one. -/
def endWord (r : Reader) : Reader :=
  match r.place with
  | .word => ⟨.between, [], r.words ++ [String.ofList r.word], r.commands⟩
  | _ => r

/-- The command that has begun ends. A line without words has none. -/
def endLine (r : Reader) : Reader :=
  let words := r.endWord.words
  fresh (if words.isEmpty then r.commands else r.commands ++ [words])

/-- A character outside quotes and comments. -/
def bare (r : Reader) (c : Char) : Option Reader :=
  if c = '\n' then some r.endLine
  else if c = ' ' ∨ c = '\t' then some r.endWord
  else if c = '\x27' then some { r with place := .single }
  else if c = '\x22' then some { r with place := .double }
  else if isSpecial c then none
  else some { r with place := .word, word := r.word ++ [c] }

/-- A character. -/
def step (r : Reader) (c : Char) : Option Reader :=
  match r.place with
  | .between => if c = '#' then some { r with place := .comment } else r.bare c
  | .word => r.bare c
  | .single =>
    if c = '\x27' then some { r with place := .word } else some { r with word := r.word ++ [c] }
  | .double =>
    if c = '\x22' then some { r with place := .word }
    else if isActive c then none
    else some { r with word := r.word ++ [c] }
  | .comment => if c = '\n' then some r.endLine else some r

/-- Characters, one after the other. -/
def reads (r : Reader) (cs : List Char) : Option Reader := cs.foldlM step r

/-- The commands, if the text may end here: no quotes are open. -/
def finish (r : Reader) : Option (List (List String)) :=
  match r.place with
  | .single | .double => none
  | _ => some r.endLine.commands

@[simp] theorem reads_nil (r : Reader) : r.reads [] = some r := rfl

theorem reads_cons (r : Reader) (c : Char) (cs : List Char) :
    r.reads (c :: cs) = (r.step c).bind fun r => r.reads cs := rfl

theorem reads_append (r : Reader) (cs ds : List Char) :
    r.reads (cs ++ ds) = (r.reads cs).bind fun r => r.reads ds := List.foldlM_append

theorem finish_fresh (commands : List (List String)) : (fresh commands).finish = some commands :=
  rfl

/-- The reader, had it read other commands before. -/
def after (before : List (List String)) (r : Reader) : Reader :=
  { r with commands := before ++ r.commands }

variable (before : List (List String))

theorem endWord_after (r : Reader) : (r.after before).endWord = r.endWord.after before := by
  obtain ⟨place, word, words, commands⟩ := r
  cases place <;> rfl

theorem endLine_after (r : Reader) : (r.after before).endLine = r.endLine.after before := by
  rw [endLine, endLine, endWord_after]
  show fresh (if r.endWord.words.isEmpty then _ else _) = _
  cases r.endWord.words.isEmpty with
  | true => rfl
  | false => simp [fresh, after]

theorem bare_after (r : Reader) (c : Char) :
    (r.after before).bare c = (r.bare c).map (after before) := by
  unfold bare
  rw [endLine_after, endWord_after]
  -- the other characters change the place and the word only
  repeat' split
  all_goals rfl

/-- What was read before has no influence on a character. -/
theorem step_after (r : Reader) (c : Char) :
    (r.after before).step c = (r.step c).map (after before) := by
  unfold step
  rw [bare_after, endLine_after]
  obtain ⟨place, word, words, commands⟩ := r
  -- in each place, a character adds commands only by way of the two equations above
  cases place
  all_goals
    simp only [after]
    repeat' split
    all_goals rfl

theorem reads_after (r : Reader) (cs : List Char) :
    (r.after before).reads cs = (r.reads cs).map (after before) := by
  induction cs generalizing r with
  | nil => rfl
  | cons c cs ih =>
    rw [reads_cons, reads_cons, step_after]
    cases r.step c with
    | none => rfl
    | some r => exact ih r

end Reader

/-- The commands of a text. -/
def read (text : String) : Option (List (List String)) :=
  ((Reader.fresh []).reads text.toList).bind Reader.finish

/-! ## Words -/

section Words

variable {w : List Char} {words : List String} {commands : List (List String)}

/-- A character that needs no quotes is none of the marks that do. -/
theorem not_mem_of_isPlain {c : Char} (h : isPlain c = true) {marks : List Char}
    (hmarks : marks.all (fun d => !isPlain d) = true) : c ∉ marks := by
  intro hc
  have hplain := List.all_eq_true.mp hmarks c hc
  rw [h] at hplain
  cases hplain

theorem isSpecial_of_isPlain {c : Char} (h : isPlain c = true) : isSpecial c = false := by
  rw [isSpecial, List.contains_eq_mem, decide_eq_false_iff_not]
  exact not_mem_of_isPlain h rfl

theorem bare_of_isPlain (place : Place) {c : Char} (h : isPlain c = true) :
    Reader.bare ⟨place, w, words, commands⟩ c = some ⟨.word, w ++ [c], words, commands⟩ := by
  have hmarks : c ∉ ['\n', ' ', '\t', '\x27', '\x22'] := not_mem_of_isPlain h rfl
  simp only [List.mem_cons, not_or] at hmarks
  simp [Reader.bare, hmarks, isSpecial_of_isPlain h]

/-- Characters that need no quotes go to the word that has begun. -/
theorem reads_plain {cs : List Char} (h : ∀ c ∈ cs, isPlain c = true) :
    Reader.reads ⟨.word, w, words, commands⟩ cs = some ⟨.word, w ++ cs, words, commands⟩ := by
  induction cs generalizing w with
  | nil => simp
  | cons c cs ih =>
    rw [List.forall_mem_cons] at h
    rw [Reader.reads_cons, Reader.step, bare_of_isPlain _ h.1, Option.bind_some, ih h.2,
      List.append_assoc, List.singleton_append]

/-- Between single quotes every character goes to the word, a single quote by way of double
quotes. -/
theorem reads_inQuotes (cs : List Char) :
    Reader.reads ⟨.single, w, words, commands⟩ (cs.flatMap inQuotes) =
      some ⟨.single, w ++ cs, words, commands⟩ := by
  induction cs generalizing w with
  | nil => simp
  | cons c cs ih =>
    have hc : Reader.reads ⟨.single, w, words, commands⟩ (inQuotes c) =
        some ⟨.single, w ++ [c], words, commands⟩ := by
      by_cases hquote : c = '\x27'
      · subst c
        rfl
      · simp [inQuotes, hquote, Reader.reads_cons, Reader.step]
    rw [List.flatMap_cons, Reader.reads_append, hc, Option.bind_some, ih, List.append_assoc,
      List.singleton_append]

/-- **A word with its quotes is read as the word**, whatever its characters are. -/
theorem reads_word (s : String) :
    Reader.reads ⟨.between, [], words, commands⟩ (word s).toList =
      some ⟨.word, s.toList, words, commands⟩ := by
  rw [word]
  split
  next h =>
    -- the first character of a word without quotes is no number sign
    simp only [Bool.and_eq_true, Bool.not_eq_true', List.all_eq_true] at h
    obtain ⟨hne, hplain⟩ := h
    cases hs : s.toList with
    | nil => simp [hs] at hne
    | cons c cs =>
      rw [hs, List.forall_mem_cons] at hplain
      have hsharp : c ∉ ['#'] := not_mem_of_isPlain hplain.1 rfl
      have hc : Reader.step ⟨.between, [], words, commands⟩ c =
          some ⟨.word, [c], words, commands⟩ := by
        rw [Reader.step, if_neg (fun h => hsharp (List.mem_singleton.mpr h)),
          bare_of_isPlain _ hplain.1, List.nil_append]
      rw [Reader.reads_cons, hc, Option.bind_some, reads_plain hplain.2, List.singleton_append]
  next =>
    -- the closing quote leaves the reader in the word, which may go on behind it
    rw [String.toList_ofList, List.cons_append, Reader.reads_cons]
    have hopen : Reader.step ⟨.between, [], words, commands⟩ '\x27' =
        some ⟨.single, [], words, commands⟩ := rfl
    rw [hopen, Option.bind_some, Reader.reads_append, reads_inQuotes, List.nil_append]
    rfl

/-- The line of a command, after the words that have been read of it. -/
theorem reads_line {ss : List String} (hne : ss ≠ []) :
    Reader.reads ⟨.between, [], words, commands⟩
        ((" ".intercalate (ss.map word)).toList ++ ['\n']) =
      some (Reader.fresh (commands ++ [words ++ ss])) := by
  -- the words that have been read grow from one word of the line to the next
  induction ss generalizing words with
  | nil => exact absurd rfl hne
  | cons s ss ih =>
    cases ss with
    | nil =>
      rw [List.map_singleton, String.intercalate_singleton, Reader.reads_append, reads_word,
        Option.bind_some, Reader.reads_cons]
      simp [Reader.step, Reader.bare, Reader.endLine, Reader.endWord]
    | cons t ss =>
      rw [List.map_cons, List.map_cons, String.intercalate_cons_cons, ← List.map_cons,
        String.toList_append, String.toList_append, List.append_assoc, List.append_assoc,
        Reader.reads_append, reads_word, Option.bind_some, Reader.reads_append]
      -- the blank ends the word, and the rest of the line is read with that word before it
      have hblank : Reader.reads ⟨.word, s.toList, words, commands⟩ " ".toList =
          some ⟨.between, [], words ++ [s], commands⟩ := by
        simp [Reader.reads_cons, Reader.step, Reader.bare, Reader.endWord]
      rw [hblank, Option.bind_some, ih (List.cons_ne_nil _ _), List.append_assoc,
        List.singleton_append]

end Words

/-! ## Lines -/

/-- The text consists of whole lines that have the given commands, whatever came before. -/
def Says (text : List Char) (commands : List (List String)) : Prop :=
  ∀ before, (Reader.fresh before).reads text = some (Reader.fresh (before ++ commands))

/-- Whether whole lines have the given commands may be seen without any before them. -/
theorem says_iff {text : List Char} {commands : List (List String)} :
    Says text commands ↔ (Reader.fresh []).reads text = some (Reader.fresh commands) := by
  constructor
  · intro h
    rw [h, List.nil_append]
  · intro h before
    have hfresh : Reader.fresh before = (Reader.fresh []).after before := by
      simp [Reader.fresh, Reader.after]
    rw [hfresh, Reader.reads_after, h]
    rfl

theorem says_nil : Says [] [] := fun before => by rw [Reader.reads_nil, List.append_nil]

theorem Says.append {text rest : List Char} {commands more : List (List String)}
    (h : Says text commands) (hrest : Says rest more) :
    Says (text ++ rest) (commands ++ more) := fun before => by
  rw [Reader.reads_append, h, Option.bind_some, hrest, List.append_assoc]

/-- A text of whole lines is read as its commands. -/
theorem Says.read {text : String} {commands : List (List String)} (h : Says text.toList commands) :
    read text = some commands := by
  rw [Shell.read, h, Option.bind_some, List.nil_append, Reader.finish_fresh]

/-- **The line of a command is read as the command.** -/
theorem says_join {ss : List String} (hne : ss ≠ []) : Says ((join ss).toList ++ ['\n']) [ss] :=
  fun before => by rw [join, Reader.fresh, reads_line hne, List.nil_append]

/-- An empty line has no command. -/
theorem says_blank : Says ['\n'] [] := fun before => by rw [List.append_nil]; rfl

theorem reads_comment {text : List Char} (h : '\n' ∉ text) (commands : List (List String)) :
    Reader.reads ⟨.comment, [], [], commands⟩ text = some ⟨.comment, [], [], commands⟩ := by
  induction text with
  | nil => rfl
  | cons c text ih =>
    rw [List.mem_cons, not_or] at h
    rw [Reader.reads_cons, Reader.step, if_neg (Ne.symm h.1), Option.bind_some, ih h.2]

/-- **A comment has no command**, as long as it stays on its line. -/
theorem says_comment {text : List Char} (h : '\n' ∉ text) : Says ('#' :: text ++ ['\n']) [] :=
  fun before => by
    have hopen : (Reader.fresh before).step '#' = some ⟨.comment, [], [], before⟩ := rfl
    rw [List.append_nil, List.cons_append, Reader.reads_cons, hopen, Option.bind_some,
      Reader.reads_append, reads_comment h]
    rfl

/-- The lines one below the other. -/
theorem says_flatMap {α : Type} {xs : List α} {text : α → List Char}
    {commands : α → List (List String)} (h : ∀ x ∈ xs, Says (text x) (commands x)) :
    Says (xs.flatMap text) (xs.flatMap commands) := by
  induction xs with
  | nil => exact says_nil
  | cons x xs ih =>
    rw [List.forall_mem_cons] at h
    rw [List.flatMap_cons, List.flatMap_cons]
    exact h.1.append (ih h.2)

end PodRedirect.Shell
