import PodRedirect.Proofs.Setting.Kind
import PodRedirect.Setting.File

/-!
# Loading a policy file

A policy file gives settings of their kinds, or it is rejected, unless it breaks in one of three
ways that no rule covers: its bytes are no text, its document has no value, or one of its entries
cannot be taken for such a reason. These are all ends, and which one it is depends on the content of
the file only. All this is so whatever reads the document, so it does not rest on how the documents
are written; the program reads them by `Yaml.read`.

## Main definitions

* `FileContent.Breaks`: the contents that no rule covers, with what they end with
* `Settings.Loads`: the ends of loading a file

## Main results

* `Settings.load_rejects_iff`: loading fails by a rejection only, exactly if the content does not
  break
-/

namespace PodRedirect

open Text (unifyEnds)

/-- The entries of a document that denotes a mapping, with their values. -/
def Yaml.Document.pairs? (d : Document) : Option (List (Value × Value)) :=
  d.entries?.map fun es => es.map fun e => (e.1, d.view e.2)

/-- A mapping is not nothing. -/
theorem Yaml.Document.isNull_of_pairs? {d : Document} {es : List (Value × Value)}
    (h : d.pairs? = some es) : d.isNull = false := by
  unfold isNull
  split
  next hroot => simp [pairs?, entries?, hroot] at h
  next => rfl

/-- The content is one that no rule covers, where `read` reads documents: the bytes are no text, or
the document has no value, or the first entry that is at fault is so for what no rule covers. -/
inductive FileContent.Breaks (read : String → Except Yaml.Failure Yaml.Document) :
    FileContent → Mishap → Prop where
  | undecodable {bs : List UInt8} {f : Utf8.Fault} (h : Utf8.decode bs = .error f) :
    Breaks read (.bytes bs) (.undecodable f)
  | document {bs : List UInt8} {text : String} {f : Yaml.Fault}
    (decoded : Utf8.decode bs = .ok text)
    (h : read (String.ofList (unifyEnds text.toList)) = .error (.fault f)) :
    Breaks read (.bytes bs) (.document f)
  | entry {bs : List UInt8} {text : String} {d : Yaml.Document} {pre post : List (Value × Value)}
    {e : Value × Value} {m : Mishap} (decoded : Utf8.decode bs = .ok text)
    (denotes : read (String.ofList (unifyEnds text.toList)) = .ok d)
    (mapping : d.pairs? = some (pre ++ e :: post)) (first : ∀ e ∈ pre, Settings.fault? e = none)
    (breaks : Settings.EntryBreaks e m) : Breaks read (.bytes bs) m

namespace Settings

section Load

variable (read : String → Except Yaml.Failure Yaml.Document)

/-- The ends of loading a file: settings of their kinds, a rejection, or a mishap for a content that
no rule covers. -/
inductive Loads (content : FileContent) : Except Failure Settings → Prop where
  | typed {s : Settings} (typed : s.Typed) : Loads content (.ok s)
  | rejected (r : Rejection) : Loads content (.error (.rejected r))
  | mishap {m : Mishap} (breaks : content.Breaks read m) : Loads content (.error (.mishap m))

/-- What the document of a file comes to. -/
def ofDocument (path : String) (d : Yaml.Document) : Except Failure Settings :=
  if d.isNull then .ok []
  else match d.pairs? with
    | none => .error (.rejected (.noMapping path d.kind))
    | some es => taken [] es

/-- What a file comes to. -/
def ofContent (path : String) : FileContent → Except Failure Settings
  | .error e => .error (.rejected (.unreadable path e))
  | .bytes bs =>
    match Utf8.decode bs with
    | .error f => .error (.mishap (.undecodable f))
    | .ok text =>
      match read (String.ofList (unifyEnds text.toList)) with
      | .error (.refused problem) => .error (.rejected (.unparsable path problem))
      | .error (.fault f) => .error (.mishap (.document f))
      | .ok d => ofDocument path d

theorem computes_loadWith (path : String) (content : FileContent) :
    (loadWith read path content).Computes (ofContent read path content) := by
  unfold loadWith ofContent
  cases content with
  | error e => exact Logged.computes_throw _
  | bytes bs =>
    dsimp only
    cases Utf8.decode bs with
    | error f => exact Logged.computes_throw _
    | ok text =>
      dsimp only
      cases read (String.ofList (unifyEnds text.toList)) with
      | error f =>
        cases f with
        | refused _ | fault _ => exact Logged.computes_throw _
      | ok d =>
        dsimp only
        unfold ofDocument Yaml.Document.pairs?
        split
        · exact Logged.computes_pure []
        · cases d.entries? with
          | none => exact Logged.computes_throw _
          | some es => exact (Logged.computes_note _ _ _).bind fun _ => computes_coerceOnto _ [] es

/-- Entries that cannot be taken are rejected, or no rule covers them. -/
theorem taken_error {given : Settings} {es : List (Value × Value)} {f : Failure}
    (h : taken given es = .error f) : (∃ r, f = .rejected r) ∨ ∃ m, f = .mishap m := by
  unfold taken at h
  split at h
  next f' hfault =>
    cases h
    obtain ⟨e, -, he⟩ := List.exists_of_findSome?_eq_some hfault
    have hends := enters e
    rw [fault?] at he
    generalize entry e = r at he hends
    cases hends with
    | unknown | given => cases he
    | rejected r => cases he; exact Or.inl ⟨r, rfl⟩
    | mishap breaks => cases he; exact Or.inr ⟨_, rfl⟩
  next => cases h

/-- Entries that end in a mishap have a first one that is at fault, and no rule covers that. -/
theorem taken_eq_mishap_iff {given : Settings} {es : List (Value × Value)} {m : Mishap} :
    taken given es = .error (.mishap m) ↔ ∃ pre e post, es = pre ++ e :: post ∧
      (∀ e ∈ pre, fault? e = none) ∧ EntryBreaks e m := by
  have hfault : taken given es = .error (.mishap m) ↔
      es.findSome? fault? = some (.mishap m) := by
    unfold taken
    cases es.findSome? fault? <;> simp
  rw [hfault, List.findSome?_eq_some_iff]
  constructor
  · rintro ⟨pre, e, post, hes, he, hpre⟩
    exact ⟨pre, e, post, hes, hpre, fault?_eq_mishap_iff.mp he⟩
  · rintro ⟨pre, e, post, hes, hpre, he⟩
    exact ⟨pre, e, post, hes, fault?_eq_mishap_iff.mpr he, hpre⟩

/-- **Loading a file ends as `Loads` says.** -/
theorem loads (path : String) (content : FileContent) :
    Loads read content (ofContent read path content) := by
  unfold ofContent
  cases content with
  | error e => exact .rejected _
  | bytes bs =>
    dsimp only
    cases hdecode : Utf8.decode bs with
    | error f => exact .mishap (.undecodable hdecode)
    | ok text =>
      dsimp only
      cases hread : read (String.ofList (unifyEnds text.toList)) with
      | error f =>
        cases f with
        | refused problem => exact .rejected _
        | fault f => exact .mishap (.document hdecode hread)
      | ok d =>
        dsimp only
        unfold ofDocument
        split
        · exact .typed fun _ h => absurd h List.not_mem_nil
        · cases hpairs : d.pairs? with
          | none => exact .rejected _
          | some es =>
            dsimp only
            cases htaken : taken [] es with
            | ok s => exact .typed (typed_of_taken (fun _ h => absurd h List.not_mem_nil) htaken)
            | error f =>
              rcases taken_error htaken with ⟨r, rfl⟩ | ⟨m, rfl⟩
              · exact .rejected r
              · -- the first entry at fault decides
                obtain ⟨pre, e, post, rfl, first, breaks⟩ := taken_eq_mishap_iff.mp htaken
                exact .mishap (.entry hdecode hread hpairs first breaks)

theorem ofContent_of_breaks (path : String) {content : FileContent} {m : Mishap}
    (h : content.Breaks read m) : ofContent read path content = .error (.mishap m) := by
  cases h with
  | undecodable h => rw [ofContent, h]
  | document decoded h => rw [ofContent, decoded]; simp only [h]
  | @entry bs text d pre post e m decoded denotes mapping first breaks =>
    have hnull : d.isNull = false := Yaml.Document.isNull_of_pairs? mapping
    have htaken : taken [] (pre ++ e :: post) = .error (.mishap m) :=
      taken_eq_mishap_iff.mpr ⟨pre, e, post, rfl, first, breaks⟩
    rw [ofContent, decoded]
    simp only [denotes, ofDocument, hnull, mapping, htaken]
    rfl

/-- **Loading a policy file fails by a rejection only, exactly if its content does not break.**
Whatever reads the documents, loading gives settings of their kinds or is rejected, whatever the
file holds and also if there is none, unless its content is one that no rule covers, and for such a
content it ends in the mishap that belongs to it. -/
theorem load_rejects_iff (path : String) (content : FileContent) :
    let r := ((loadWith read path content).run #[]).1
    (((∃ s, r = .ok s ∧ s.Typed) ∨ ∃ j, r = .error (.rejected j)) ↔
        ∀ m, ¬content.Breaks read m) ∧
      ∀ m, r = .error (.mishap m) ↔ content.Breaks read m := by
  intro r
  have hr : r = ofContent read path content := computes_loadWith read path content #[]
  have hloads : Loads read content r := hr ▸ loads read path content
  have hbreaks {m : Mishap} (h : content.Breaks read m) : r = .error (.mishap m) :=
    hr.trans (ofContent_of_breaks read path h)
  -- the three ends exclude each other, and a content that breaks has the last one
  generalize r = r at hloads hbreaks
  constructor
  · constructor
    · rintro (⟨s, rfl, -⟩ | ⟨j, rfl⟩) m h
      · cases hbreaks h
      · cases hbreaks h
    · intro hnone
      cases hloads with
      | typed typed => exact Or.inl ⟨_, rfl, typed⟩
      | rejected j => exact Or.inr ⟨j, rfl⟩
      | mishap breaks => exact absurd breaks (hnone _)
  · refine fun m => ⟨?_, hbreaks⟩
    rintro rfl
    cases hloads with
    | mishap breaks => exact breaks

end Load

theorem computes_load (path : String) (content : FileContent) :
    (load path content).Computes (ofContent Yaml.read path content) :=
  computes_loadWith Yaml.read path content

/-- The mishap that a result is, if it is one. -/
def mishap? {α : Type} : Except Failure α → Option Mishap
  | .error (.mishap m) => some m
  | _ => none

theorem eq_of_mishap? {α : Type} {r : Except Failure α} {m : Mishap} (h : mishap? r = some m) :
    r = .error (.mishap m) := by
  unfold mishap? at h
  split at h
  · cases h; rfl
  · cases h

/-- The content of a file with the given characters of seven bits. -/
def ascii (text : String) : FileContent := .bytes (text.toList.map fun c => UInt8.ofNat c.toNat)

/-- A byte that starts no character, an infinite number, a day that no month has, and a word that is
to be a point in time. -/
theorem load_breaks :
    ((load "policy.yml" (.bytes [0xff])).run #[]).1 =
      .error (.mishap (.undecodable ⟨0, 0xff, 1, .invalidStart⟩)) ∧
    ((load "policy.yml" (ascii "proxy-uid: .inf")).run #[]).1 = .error (.mishap .infinite) ∧
    ((load "policy.yml" (ascii "netns: 2024-02-30")).run #[]).1 =
      .error (.mishap (.document (.calendar .day))) ∧
    ((load "policy.yml" (ascii "netns: !!timestamp foo")).run #[]).1 =
      .error (.mishap (.document .noTime)) := by
  refine ⟨eq_of_mishap? ?_, eq_of_mishap? ?_, eq_of_mishap? ?_, eq_of_mishap? ?_⟩
  · decide +kernel
  · decide +kernel
  · decide +kernel
  · decide +kernel

end Settings

end PodRedirect
