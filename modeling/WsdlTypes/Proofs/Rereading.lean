import WsdlTypes.Proofs.Library
import WsdlTypes.Session
/-!
# Documents by number, read again

A library keeps the text of every document, and its number is its place in the library. So
nothing but numbers need be passed around: whenever something is needed of a document it is
looked up by its number and its text is read again. This file defines a session that works in
this way, in small steps between which the world may change (`Rereading`). Two things may go wrong
there. Where no document has the number everything breaks off. A text that cannot be read is noted
where references are looked up, and is passed over in silence where declarations are walked.

Neither happens. A text comes into the library only if it can be read, it is read the same way
ever after, and numbers are only handed out for documents that are there. That much is kept by
every step (`Rereading.Sound.step`), so it holds whatever happens (`Rereading.Sound.run`).
-/

namespace WsdlTypes

/-! ## The world -/

/-- What is seen of the world: what a location is known by, and what is fetched from it. Neither
says anything about the other, since files may change between two looks. -/
structure World where
  identity : Location → String
  fetch : Location → Except LoadError String

/-- What is seen of a tree of files. -/
def World.ofTree (tree : File.Tree) : World where
  identity := Location.identity tree
  fetch := Location.fetch tree

namespace Library

variable {library : Library} {tree : File.Tree} {location : Location}

/-- The document that is fetched from a location, as the next one of the library. -/
def openFrom? (library : Library) (world : World) (location : Location) :
    Except LoadError Document := do
  let text ← world.fetch location
  match Xml.Element.parse library.doctypes text with
  | .ok root => .ok { id := library.documents.length, location, text, root }
  | .error cause => .error (.malformed location.display cause)

/-- Brings in the document at a location, unless it was tried before. -/
def loadFrom (library : Library) (world : World) (location : Location) :
    Library × Except LoadError LoadOutcome :=
  let identity := world.identity location
  if identity ∈ library.visited then (library, .ok .alreadyLoaded)
  else
    let tried := { library with visited := identity :: library.visited }
    match library.openFrom? world location with
    | .ok document =>
      ({ tried with documents := library.documents ++ [document] }, .ok (.loaded document))
    | .error cause => (tried, .error cause)

/-- Follows a reference from where its document lives. -/
def followFrom (library : Library) (world : World) (base : Location)
    (reference : DocumentReference) : Library × Except LoadError LoadOutcome :=
  match base.join reference.location with
  | .ok location => library.loadFrom world location
  | .error cause => (library, .error cause)

/-- From a tree of files documents are brought in as ever. -/
theorem loadFrom_ofTree : library.loadFrom (.ofTree tree) location = library.load tree location :=
  rfl

theorem followFrom_ofTree {document : Document} {reference : DocumentReference} :
    library.followFrom (.ofTree tree) document.location reference
      = library.follow tree document reference :=
  rfl

end Library

/-! ## Reading again -/

/-- What the text of a document says when it is read again. -/
def Document.reread (doctypes : Bool) (document : Document) : Except LoadError Xml.Element :=
  (Xml.Element.parse doctypes document.text).mapError (.malformed document.location.display)

/-- The references of a document by its text. One that cannot be read is noted, on no line, and
has none. -/
def Document.rereadReferences (doctypes : Bool) (document : Document) :
    Report (List DocumentReference) :=
  match document.reread doctypes with
  | .ok root => pure (DocumentReference.ofRoot root)
  | .error cause => ⟨[],
      [{ problem := .unloaded cause, file := document.location.display, line := 0 }]⟩

/-- The documents of a library by their texts, without those that cannot be read. -/
def Library.reread (library : Library) : List Document :=
  library.documents.filterMap fun document =>
    (document.reread library.doctypes).toOption.map fun root => { document with root }

/-- The session with the declarations of some documents taken in, for which all texts of the
library are read again. -/
def Session.takeInReread (session : Session) (order : List Nat) : Session :=
  let read := { session with library.documents := session.library.reread }
  { read.takeIn order with library := session.library }

/-! ## The steps -/

namespace Rereading

/-- What there is to do about a document, which is known by its number. -/
inductive Task where
  /-- Its references are to be looked up. -/
  | visit (id : Nat)
  /-- Some of its references are to be followed from where it lives; then it is left. -/
  | follow (id : Nat) (base : Location) (pending : List DocumentReference)

/-- The number of the document. -/
def Task.id : Task → Nat
  | visit id => id
  | follow id _ _ => id

/-- How far the references were followed: the documents that were left, in order, and what is
to do, the next first. -/
structure Pass where
  order : List Nat := []
  tasks : List Task

/-- The numbers of the documents that were left and of those that there is something to do
about. -/
def Pass.ids (pass : Pass) : List Nat := pass.order ++ pass.tasks.map Task.id

/-- What may happen: files are created, overwritten, removed or changed in any other way, a
document is asked for, or what is under way goes on by a step. -/
inductive Event where
  | change (world : World)
  | ask (source : String)
  | work

end Rereading

/-- The world as it is, and a session that knows documents by their numbers. -/
structure Rereading where
  world : World
  session : Session
  /-- What is under way, if a document came in that was asked for. -/
  pass : Option Rereading.Pass := none

namespace Rereading

/-- Nothing was asked for. -/
def start (config : Config) (world : World) : Rereading := { world, session := .new config }

/-- Asks for the document at a location, unless something is under way. -/
def ask (r : Rereading) (source : String) : Rereading :=
  match r.pass, Location.parse source with
  | none, .ok location =>
    match r.session.library.loadFrom r.world location with
    | (library, .ok (.loaded root)) =>
      { r with session := { r.session with library }, pass := some { tasks := [.visit root.id] } }
    | (library, _) => { r with session := { r.session with library } }
  | _, _ => r

/-- Looks up the references of the document of a number. -/
def visit (r : Rereading) (order : List Nat) (id : Nat) (tasks : List Task) : Option Rereading :=
  (r.session.library.document? id).map fun document =>
    let report := document.rereadReferences r.session.library.doctypes
    { r with
      session := { r.session with findings := r.session.findings ++ report.findings }
      pass := some ⟨order, .follow id document.location report.value :: tasks⟩ }

/-- Takes in what came of following a reference from a location. -/
def take (r : Rereading) (order : List Nat) (tasks : List Task) (base : Location)
    (reference : DocumentReference) : Library × Except LoadError LoadOutcome → Rereading
  | (library, .ok (.loaded found)) =>
    { r with
      session := { r.session with
        library
        inherited :=
          match reference.includedInto with
          | some target => (found.id, target) :: r.session.inherited
          | none => r.session.inherited }
      pass := some ⟨order, .visit found.id :: tasks⟩ }
  | (library, .ok .alreadyLoaded) =>
    { r with session := { r.session with library }, pass := some ⟨order, tasks⟩ }
  | (library, .error cause) =>
    { r with
      session := { r.session with
        library
        findings := r.session.findings ++
          [{ problem := .unloaded cause, file := base.display, line := reference.line }] }
      pass := some ⟨order, tasks⟩ }

/-- Goes on by a step: a document is visited, one of its references is followed, or it is left;
once all were left their declarations are taken in. -/
def work (r : Rereading) : Option Rereading :=
  match r.pass with
  | none => some r
  | some ⟨order, []⟩ => some { r with session := r.session.takeInReread order, pass := none }
  | some ⟨order, .visit id :: tasks⟩ => r.visit order id tasks
  | some ⟨order, .follow id _ [] :: tasks⟩ =>
    some { r with pass := some ⟨order ++ [id], tasks⟩ }
  | some ⟨order, .follow id base (reference :: pending) :: tasks⟩ =>
    some (r.take order (.follow id base pending :: tasks) base reference
      (r.session.library.followFrom r.world base reference))

/-- What comes of an event, unless everything breaks off. -/
def step (r : Rereading) : Event → Option Rereading
  | .change world => some { r with world }
  | .ask source => some (r.ask source)
  | .work => r.work

/-- What comes of some events, unless everything breaks off. -/
def run (r : Rereading) (events : List Event) : Option Rereading := events.foldlM step r

theorem run_cons (r : Rereading) (event : Event) (rest : List Event) :
    r.run (event :: rest) = (r.step event).bind fun next => next.run rest := rfl

theorem run_append (r : Rereading) (events more : List Event) :
    r.run (events ++ more) = (r.run events).bind fun next => next.run more :=
  List.foldlM_append

end Rereading

/-! ## Libraries whose texts can be read -/

namespace Library

variable {doctypes : Bool} {library library' : Library} {world : World}
variable {location base : Location} {document : Document} {reference : DocumentReference}
variable {outcome : Except LoadError LoadOutcome}

/-- Documents are numbered in order, and their texts can be read: they say what they said when
they came in. -/
structure Kept (doctypes : Bool) (library : Library) : Prop where
  options : library.doctypes = doctypes
  numbered : library.Numbered
  readable : ∀ d ∈ library.documents, d.reread doctypes = .ok d.root

/-- The document that is looked up by a number has this number, and can be read again. -/
theorem Kept.of_document? (h : library.Kept doctypes) {id : Nat}
    (hget : library.document? id = some document) :
    document.id = id ∧ document.reread doctypes = .ok document.root := by
  obtain ⟨hlt, hdocument⟩ := List.getElem?_eq_some_iff.1 hget
  refine ⟨?_, h.readable document (hdocument ▸ List.getElem_mem hlt)⟩
  have hid : (library.documents.map Document.id)[id]? = some document.id := by
    rw [List.getElem?_map, show library.documents[id]? = some document from hget, Option.map_some]
  rw [h.numbered, List.getElem?_range hlt, Option.some.injEq] at hid
  exact hid.symm

/-- The numbers that can be looked up are those below the number of documents. -/
theorem exists_document?_iff {id : Nat} :
    (∃ document, library.document? id = some document) ↔ id < library.documents.length :=
  ⟨fun ⟨_, hget⟩ => (List.getElem?_eq_some_iff.1 hget).1,
    fun hlt => ⟨library.documents[id], List.getElem?_eq_getElem hlt⟩⟩

/-- **Reading all texts again drops no document** and changes none. -/
theorem Kept.reread_eq (h : library.Kept doctypes) : library.reread = library.documents := by
  have hsame : ∀ d ∈ library.documents,
      ((d.reread library.doctypes).toOption.map fun root => { d with root }) = some d := by
    intro d hd
    rw [h.options, h.readable d hd]
    rfl
  rw [reread, List.filterMap_congr hsame]
  exact List.filterMap_some

/-- A document comes in only if its text can be read, and with the next number. -/
theorem openFrom?_eq_ok (h : library.openFrom? world location = .ok document) :
    document.reread library.doctypes = .ok document.root ∧
      document.id = library.documents.length := by
  unfold openFrom? at h
  cases hfetch : world.fetch location with
  | error cause =>
    rw [hfetch] at h
    cases h
  | ok text =>
    simp only [hfetch, bind, Except.bind] at h
    split at h
    · rename_i root hparse
      cases h
      exact ⟨by rw [Document.reread, hparse]; rfl, rfl⟩
    · cases h

/-- What asking for a document does to the documents: the one that comes in stands behind the
others, or they stay as they are. -/
theorem loadFrom_outcome (hload : library.loadFrom world location = (library', outcome)) :
    library'.doctypes = library.doctypes ∧
      ((∃ document, outcome = .ok (.loaded document) ∧
          library.openFrom? world location = .ok document ∧
          library'.documents = library.documents ++ [document]) ∨
        (∀ document, outcome ≠ .ok (.loaded document)) ∧
          library'.documents = library.documents) := by
  simp only [loadFrom] at hload
  split at hload
  · cases hload
    exact ⟨rfl, Or.inr ⟨by simp, rfl⟩⟩
  · split at hload
    · rename_i document hopen
      cases hload
      exact ⟨rfl, Or.inl ⟨document, rfl, hopen, rfl⟩⟩
    · cases hload
      exact ⟨rfl, Or.inr ⟨by simp, rfl⟩⟩

/-- A document that comes in is looked up by the number that it gets. -/
theorem document?_of_loadFrom
    (hload : library.loadFrom world location = (library', .ok (.loaded document))) :
    library'.document? document.id = some document := by
  obtain ⟨-, ⟨_, heq, hopen, hdocuments⟩ | ⟨hquiet, -⟩⟩ := loadFrom_outcome hload
  · cases heq
    rw [document?, hdocuments, (openFrom?_eq_ok hopen).2]
    exact List.getElem?_concat_length ..
  · exact absurd rfl (hquiet document)

/-- **Whatever comes of asking for a document**, the texts can still be read, and those that
there were keep their numbers. -/
theorem Kept.loadFrom (h : library.Kept doctypes)
    (hload : library.loadFrom world location = (library', outcome)) :
    library'.Kept doctypes ∧ library.documents <+: library'.documents := by
  obtain ⟨hdoctypes, ⟨document, -, hopen, hdocuments⟩ | ⟨-, hdocuments⟩⟩ := loadFrom_outcome hload
  · obtain ⟨hread, hid⟩ := openFrom?_eq_ok hopen
    refine ⟨⟨hdoctypes.trans h.options, h.numbered.append hid hdocuments, fun d hd => ?_⟩, ?_⟩
    · rw [hdocuments] at hd
      rcases List.mem_append.1 hd with hd | hd
      · exact h.readable d hd
      · rw [List.mem_singleton.1 hd, ← h.options]
        exact hread
    · rw [hdocuments]
      exact List.prefix_append _ _
  · refine ⟨⟨hdoctypes.trans h.options, h.numbered.of_documents_eq hdocuments, fun d hd => ?_⟩, ?_⟩
    · exact h.readable d (hdocuments ▸ hd)
    · exact hdocuments ▸ List.prefix_refl _

/-- And so they can whatever comes of following a reference. -/
theorem Kept.followFrom (h : library.Kept doctypes)
    (hfollow : library.followFrom world base reference = (library', outcome)) :
    library'.Kept doctypes ∧ library.documents <+: library'.documents := by
  unfold Library.followFrom at hfollow
  split at hfollow
  · exact h.loadFrom hfollow
  · obtain ⟨rfl, -⟩ := Prod.mk.inj hfollow
    exact ⟨h, List.prefix_refl _⟩

/-- The document that a reference brings in is looked up by the number that it gets. -/
theorem document?_of_followFrom
    (hfollow : library.followFrom world base reference = (library', .ok (.loaded document))) :
    library'.document? document.id = some document := by
  unfold Library.followFrom at hfollow
  split at hfollow
  · exact document?_of_loadFrom hfollow
  · cases hfollow

end Library

/-! ## What every step keeps -/

namespace Rereading

variable {config : Config} {r : Rereading} {library : Library} {pass : Pass} {base : Location}
variable {order : List Nat} {tasks : List Task} {reference : DocumentReference}
variable {outcome : Except LoadError LoadOutcome}

/-- The texts of the library can be read, and all numbers that there are, in the pass that is
under way and among those that inherit a namespace, are numbers of documents. -/
structure Sound (config : Config) (r : Rereading) : Prop where
  kept : r.session.library.Kept config.doctypes
  inherited : ∀ entry ∈ r.session.inherited, entry.1 < r.session.library.documents.length
  pass : ∀ pass ∈ r.pass, ∀ id ∈ pass.ids, id < r.session.library.documents.length

/-- All is sound where nothing was asked for. -/
theorem sound_start (config : Config) (world : World) : Sound config (start config world) where
  kept := ⟨rfl, rfl, fun _ h => absurd h List.not_mem_nil⟩
  inherited := fun _ h => absurd h List.not_mem_nil
  pass := fun _ h => by cases h

/-- A pass goes on with numbers of documents. -/
theorem Sound.goOn (h : Sound config r)
    (hids : ∀ id ∈ pass.ids, id < r.session.library.documents.length) :
    Sound config { r with pass := some pass } where
  kept := h.kept
  inherited := h.inherited
  pass pass' hpass := by
    cases hpass
    exact hids

/-- What is noted changes nothing else. -/
theorem Sound.note (h : Sound config r) (findings : List Finding) :
    Sound config { r with session := { r.session with findings } } :=
  ⟨h.kept, h.inherited, h.pass⟩

/-- Numbers of documents remain such when documents come in. -/
theorem Sound.grow (h : Sound config r)
    (hgrown : library.Kept config.doctypes ∧ r.session.library.documents <+: library.documents) :
    Sound config { r with session := { r.session with library } } where
  kept := hgrown.1
  inherited entry hentry := Nat.lt_of_lt_of_le (h.inherited entry hentry) hgrown.2.length_le
  pass pass hpass id hid := Nat.lt_of_lt_of_le (h.pass pass hpass id hid) hgrown.2.length_le

/-- **A document that can be looked up can be read**: nothing is noted, and the references that
are followed are those that it came in with. -/
theorem visit_eq {doctypes : Bool} {id : Nat} {document : Document}
    (h : r.session.library.Kept doctypes) (hget : r.session.library.document? id = some document) :
    r.visit order id tasks = some { r with
      pass := some ⟨order, .follow id document.location
        (DocumentReference.ofRoot document.root) :: tasks⟩ } := by
  have hread : document.rereadReferences r.session.library.doctypes
      = pure (DocumentReference.ofRoot document.root) := by
    rw [Document.rereadReferences, h.options, (h.of_document? hget).2]
  simp only [visit, hget, Option.map_some, hread, Report.findings_pure, Report.value_pure,
    List.append_nil]

/-- Asking for a document keeps all sound. -/
theorem Sound.ask (h : Sound config r) (source : String) : Sound config (r.ask source) := by
  unfold Rereading.ask
  split
  · rename_i location _ _
    rcases hload : r.session.library.loadFrom r.world location with ⟨library, outcome⟩
    have hgrown := h.grow (h.kept.loadFrom hload)
    match outcome with
    | .ok (.loaded root) =>
      refine hgrown.goOn fun id hid => ?_
      obtain rfl : id = root.id := by simpa [Pass.ids, Task.id] using hid
      exact Library.exists_document?_iff.1 ⟨root, Library.document?_of_loadFrom hload⟩
    | .ok .alreadyLoaded => exact hgrown
    | .error _ => exact hgrown
  · exact h

/-- Following a reference keeps all sound: the one number that comes up is that of the document
that comes in. -/
theorem Sound.take (h : Sound config r)
    (hids : ∀ id ∈ Pass.ids ⟨order, tasks⟩, id < r.session.library.documents.length)
    (hfollow : r.session.library.followFrom r.world base reference = (library, outcome)) :
    Sound config (r.take order tasks base reference (library, outcome)) := by
  have hgrows := h.kept.followFrom hfollow
  have hgrown := h.grow hgrows
  have hids' : ∀ id ∈ Pass.ids ⟨order, tasks⟩, id < library.documents.length :=
    fun id hid => Nat.lt_of_lt_of_le (hids id hid) hgrows.2.length_le
  match outcome with
  | .ok (.loaded found) =>
    have hfound : found.id < library.documents.length :=
      Library.exists_document?_iff.1 ⟨found, Library.document?_of_followFrom hfollow⟩
    constructor
    case kept => exact hgrown.kept
    case inherited =>
      intro entry hentry
      simp only [Rereading.take] at hentry
      split at hentry
      · rcases List.mem_cons.1 hentry with rfl | hentry
        · exact hfound
        · exact hgrown.inherited entry hentry
      · exact hgrown.inherited entry hentry
    case pass =>
      intro pass hpass id hid
      cases hpass
      -- The document that came in is visited next; all other numbers were there before.
      have hcases : id = found.id ∨ id ∈ Pass.ids ⟨order, tasks⟩ := by
        simpa [Pass.ids, Task.id, or_left_comm] using hid
      rcases hcases with rfl | hid
      · exact hfound
      · exact hids' id hid
  | .ok .alreadyLoaded => exact hgrown.goOn hids'
  | .error cause => exact (hgrown.note _).goOn hids'

/-- Taking declarations in keeps all sound, since it brings nothing in. -/
theorem Sound.takeIn (h : Sound config r) (order : List Nat) :
    Sound config { r with session := r.session.takeInReread order, pass := none } where
  kept := h.kept
  inherited := h.inherited
  pass _ hpass := by cases hpass

/-- **Nothing breaks off**: what is under way goes on by a step, and all stays sound. -/
theorem Sound.work (h : Sound config r) : ∃ next, r.work = some next ∧ Sound config next := by
  unfold Rereading.work
  split
  · exact ⟨r, rfl, h⟩
  · exact ⟨_, rfl, h.takeIn _⟩
  · rename_i order id tasks hpass
    have hids := h.pass _ hpass
    obtain ⟨document, hget⟩ :=
      Library.exists_document?_iff.2 (hids id (by simp [Pass.ids, Task.id]))
    refine ⟨_, visit_eq h.kept hget, h.goOn fun id' hid => hids id' ?_⟩
    simpa [Pass.ids, Task.id] using hid
  · rename_i order id base tasks hpass
    refine ⟨_, rfl, h.goOn fun id' hid => h.pass _ hpass id' ?_⟩
    simpa [Pass.ids, Task.id] using hid
  · rename_i order id base reference pending tasks hpass
    refine ⟨_, rfl, h.take (fun id' hid => h.pass _ hpass id' ?_) rfl⟩
    simpa [Pass.ids, Task.id] using hid

/-- **Every event keeps all sound.** -/
theorem Sound.step (h : Sound config r) (event : Event) :
    ∃ next, r.step event = some next ∧ Sound config next := by
  cases event with
  | change world => exact ⟨_, rfl, h.kept, h.inherited, h.pass⟩
  | ask source => exact ⟨_, rfl, h.ask source⟩
  | work => exact h.work

/-- And so do any events. -/
theorem Sound.run (h : Sound config r) (events : List Event) :
    ∃ next, r.run events = some next ∧ Sound config next := by
  induction events generalizing r with
  | nil => exact ⟨r, rfl, h⟩
  | cons event rest ih =>
    obtain ⟨middle, hmiddle, hsound⟩ := h.step event
    rw [run_cons, hmiddle, Option.bind_some]
    exact ih hsound

end Rereading

end WsdlTypes
