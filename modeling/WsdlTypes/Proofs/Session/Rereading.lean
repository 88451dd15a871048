import WsdlTypes.Proofs.Rereading
import WsdlTypes.Proofs.Session.OneTree
/-!
# Sessions that read their documents again

A session passes documents around as they were read when they came in. It might as well pass
around their numbers, look them up whenever they are needed and read their texts again: each move
of a traversal is one or two steps of the machine that does (`exists_run_of_move`), so a call comes
to the same on both (`exists_run_call`). No step of the machine ever looks up a number that no
document has, or meets a text that cannot be read (`texts_read_again`).
-/

namespace WsdlTypes

/-- What a call is in small steps: the files are there, the location is asked for, and what is
under way goes on. -/
def Call.events (steps : Nat) (c : Call) : List Rereading.Event :=
  .change (.ofTree c.tree) :: .ask c.source :: List.replicate steps .work

namespace Rereading

variable {config : Config} {doctypes : Bool} {tree : File.Tree} {r next : Rereading}
variable {session : Session} {t t' : Traversal}

/-! ## A traversal in small steps -/

/-- A document on the stack, by its number. -/
def Task.ofFrame (frame : Frame) : Task :=
  .follow frame.document.id frame.document.location frame.pending

/-- A traversal that a call makes on a session, with its documents by their numbers. -/
def ofTraversal (tree : File.Tree) (session : Session) (t : Traversal) : Rereading where
  world := .ofTree tree
  session := session.arrived t
  pass := some ⟨t.order, t.stack.map Task.ofFrame⟩

theorem run_replicate_one (r : Rereading) : r.run (List.replicate 1 .work) = r.work :=
  Option.bind_fun_some _

/-- Some steps and then some more. -/
theorem run_replicate_add {n k : Nat} (h : r.run (List.replicate n .work) = some next) :
    r.run (List.replicate (n + k) .work) = next.run (List.replicate k .work) := by
  rw [← List.replicate_append_replicate, run_append, h, Option.bind_some]

/-- Where nothing is under way nothing goes on. -/
theorem run_replicate_of_pass_eq_none (h : r.pass = none) (n : Nat) :
    r.run (List.replicate n .work) = some r := by
  have hwork : r.work = some r := by rw [work, h]
  induction n with
  | zero => rfl
  | succ n ih =>
    rw [List.replicate_succ, run_cons, show r.step .work = r.work from rfl, hwork,
      Option.bind_some, ih]

theorem kept_move (hmove : Traversal.Move tree t t') (h : t.library.Kept doctypes) :
    t'.library.Kept doctypes := by
  cases hmove with
  | leave => exact h
  | enter _ hfollow | pass _ hfollow | fail _ hfollow =>
    exact (h.followFrom (Library.followFrom_ofTree.trans hfollow)).1

/-- The reference that is next is followed from where its document lives. -/
theorem work_ofTraversal {document : Document} {reference : DocumentReference}
    {pending : List DocumentReference} {outer : List Frame} {library : Library}
    {outcome : Except LoadError LoadOutcome}
    (hstack : t.stack = ⟨document, reference :: pending⟩ :: outer)
    (hfollow : t.library.follow tree document reference = (library, outcome)) :
    (ofTraversal tree session t).work = some ((ofTraversal tree session t).take t.order
      (Task.ofFrame ⟨document, pending⟩ :: outer.map Task.ofFrame) document.location reference
      (library, outcome)) := by
  have hfrom : (session.arrived t).library.followFrom (.ofTree tree) document.location reference
      = (library, outcome) := hfollow
  simp only [work, ofTraversal, hstack, List.map_cons, Task.ofFrame, hfrom]

variable (session)

/-- **A move is one step, or two**: a document that is entered is looked up by its number. -/
theorem exists_run_of_move (h : t.library.Kept doctypes) (hmove : Traversal.Move tree t t') :
    ∃ n, (ofTraversal tree session t).run (List.replicate n .work)
      = some (ofTraversal tree session t') := by
  cases hmove with
  | leave hstack =>
    refine ⟨1, (run_replicate_one _).trans ?_⟩
    simp only [work, ofTraversal, hstack, List.map_cons, Task.ofFrame]
    rfl
  | @enter document found reference pending outer library hstack hfollow =>
    -- The first step brings the document in, and the second one looks it up.
    let t' := { t with library, stack := ⟨document, pending⟩ :: outer }.enter found reference
    let entered : Rereading := { ofTraversal tree session t' with
      pass := some ⟨t.order, .visit found.id :: (⟨document, pending⟩ :: outer).map Task.ofFrame⟩ }
    have hfirst : (ofTraversal tree session t).run (List.replicate 1 .work) = some entered :=
      (run_replicate_one _).trans (work_ofTraversal hstack hfollow)
    have hfrom := Library.followFrom_ofTree.trans hfollow
    have hkept : entered.session.library.Kept doctypes := (h.followFrom hfrom).1
    have hsecond : entered.run (List.replicate 1 .work) = some (ofTraversal tree session t') :=
      (run_replicate_one _).trans (visit_eq hkept (Library.document?_of_followFrom hfrom))
    exact ⟨1 + 1, (run_replicate_add hfirst).trans hsecond⟩
  | pass hstack hfollow =>
    refine ⟨1, (run_replicate_one _).trans ?_⟩
    rw [work_ofTraversal hstack hfollow]
    rfl
  | fail hstack hfollow =>
    refine ⟨1, (run_replicate_one _).trans ?_⟩
    rw [work_ofTraversal hstack hfollow]
    simp only [take, ofTraversal, Session.arrived, List.append_assoc, List.map_cons]

/-- A traversal that is taken to its end is some steps. -/
theorem exists_run_of_traversal (tree : File.Tree) (h : t.library.Kept doctypes) :
    (Traversal.run tree t).library.Kept doctypes ∧
      ∃ n, (ofTraversal tree session t).run (List.replicate n .work)
        = some (ofTraversal tree session (Traversal.run tree t)) := by
  refine Traversal.run_induction
    (P := fun t' => t'.library.Kept doctypes ∧
      ∃ n, (ofTraversal tree session t).run (List.replicate n .work)
        = some (ofTraversal tree session t'))
    (fun hmove ⟨hkept, n, hn⟩ => ⟨kept_move hmove hkept, ?_⟩) ⟨h, 0, rfl⟩
  obtain ⟨k, hk⟩ := exists_run_of_move session hkept hmove
  exact ⟨n + k, (run_replicate_add hn).trans hk⟩

variable {session}

/-! ## A call in small steps -/

/-- Where all texts can be read, declarations are taken in as they were read first. -/
theorem takeInReread_eq (h : session.library.Kept doctypes) (order : List Nat) :
    session.takeInReread order = session.takeIn order := by
  rw [Session.takeInReread, h.reread_eq]
  rfl

/-- What a document starts that came in to be asked for: it is visited, all that it leads to is
brought in, and the declarations are taken in. -/
theorem exists_run_of_loaded {library : Library} {root : Document} (h : library.Kept doctypes)
    (hget : library.document? root.id = some root) :
    ∃ n, ({ world := .ofTree tree, session := { session with library },
            pass := some { tasks := [.visit root.id] } } : Rereading).run (List.replicate n .work)
      = some { world := .ofTree tree,
               session := (session.arrived (session.traversal tree library root)).takeIn
                 (session.traversal tree library root).order } := by
  let first : Rereading := { world := .ofTree tree, session := { session with library },
                             pass := some { tasks := [.visit root.id] } }
  let t := Traversal.ofRoot library session.inherited root
  let left := session.traversal tree library root
  -- One step visits the document, some take the traversal to its end, and one takes in.
  have hvisit : first.run (List.replicate 1 .work) = some (ofTraversal tree session t) := by
    have harrived : session.arrived t = { session with library } := by
      simp only [Session.arrived, t, Traversal.ofRoot, List.append_nil]
    rw [run_replicate_one, ofTraversal, harrived]
    exact visit_eq (r := first) h hget
  have hkept : t.library.Kept doctypes := h
  obtain ⟨hend, n, hrun⟩ := exists_run_of_traversal session tree hkept
  have hlast : (ofTraversal tree session left).run (List.replicate 1 .work)
      = some { world := .ofTree tree, session := (session.arrived left).takeIn left.order } := by
    have hread : (session.arrived left).takeInReread left.order
        = (session.arrived left).takeIn left.order := takeInReread_eq hend left.order
    have hstack : left.stack = [] := Traversal.stack_run ..
    simp only [run_replicate_one, work, ofTraversal, hstack, List.map_nil, hread]
  exact ⟨1 + n + 1, (run_replicate_add ((run_replicate_add hvisit).trans hrun)).trans hlast⟩

/-- Where no document comes in, asking for it changes the library alone. -/
theorem ask_of_not_loaded {source : String} {location : Location} {library : Library}
    {outcome : Except LoadError LoadOutcome} (hpass : r.pass = none)
    (hparse : Location.parse source = .ok location)
    (hload : r.session.library.loadFrom r.world location = (library, outcome))
    (hquiet : ∀ root, outcome ≠ .ok (.loaded root)) :
    r.ask source = { r with session := { r.session with library } } := by
  simp only [ask, hpass, hparse, hload]

/-- What is asked for comes to what a call comes to, after some steps. -/
theorem exists_run_ask (h : session.library.Kept doctypes) (c : Call) :
    ∃ n, (ask { world := .ofTree c.tree, session } c.source).run (List.replicate n .work)
      = some { world := .ofTree c.tree, session := session.call c } := by
  cases hparse : Location.parse c.source with
  | error cause =>
    refine ⟨0, ?_⟩
    simp only [ask, hparse, Session.call, Session.resolve]
    rfl
  | ok location =>
    rcases hload : session.library.load c.tree location with ⟨library, outcome⟩
    have hfrom := Library.loadFrom_ofTree.trans hload
    by_cases hloaded : ∃ root, outcome = .ok (.loaded root)
    · obtain ⟨root, rfl⟩ := hloaded
      simp only [ask, hparse, hfrom, Session.call_eq_of_loaded hparse hload]
      exact exists_run_of_loaded (h.loadFrom hfrom).1 (Library.document?_of_loadFrom hfrom)
    · have hquiet : ∀ root, outcome ≠ .ok (.loaded root) := fun root heq => hloaded ⟨root, heq⟩
      rw [Session.call_eq_of_not_loaded hparse hload hquiet,
        ask_of_not_loaded rfl hparse hfrom hquiet]
      exact ⟨0, rfl⟩

/-- **A call comes to the same** if it is given enough steps. -/
theorem exists_run_call (h : r.session.library.Kept doctypes) (hpass : r.pass = none) (c : Call) :
    ∃ n, ∀ m ≥ n, r.run (c.events m)
      = some { world := .ofTree c.tree, session := r.session.call c } := by
  obtain ⟨n, hn⟩ := exists_run_ask h c
  refine ⟨n, fun m hm => ?_⟩
  -- Nothing is under way after `n` steps, so any further ones change nothing.
  obtain ⟨k, rfl⟩ := Nat.exists_eq_add_of_le hm
  have hevents : r.run (c.events (n + k))
      = (ask { world := .ofTree c.tree, session := r.session } c.source).run
        (List.replicate (n + k) .work) := by
    obtain ⟨world, session, pass⟩ := r
    obtain rfl : pass = none := hpass
    rfl
  rw [hevents, run_replicate_add hn, run_replicate_of_pass_eq_none rfl]

/-- And so do any calls. -/
theorem Sound.exists_run_calls (h : Sound config r) (hpass : r.pass = none) (l : List Call) :
    ∃ n, ∀ m ≥ n, ∃ last, r.run (l.flatMap (Call.events m)) = some last ∧
      last.session = r.session.calls l ∧ last.pass = none := by
  induction l generalizing r with
  | nil => exact ⟨0, fun _ _ => ⟨r, rfl, rfl, hpass⟩⟩
  | cons c rest ih =>
    obtain ⟨n, hn⟩ := exists_run_call h.kept hpass c
    -- What the first call comes to is sound again, which the others start from.
    obtain ⟨next, hnext, hsound⟩ := h.run (c.events n)
    rw [hn n (Nat.le_refl n), Option.some.injEq] at hnext
    subst hnext
    obtain ⟨n', hrest⟩ := ih hsound rfl
    refine ⟨max n n', fun m hm => ?_⟩
    obtain ⟨last, hlast, hsession, hend⟩ := hrest m (Nat.le_trans (Nat.le_max_right n n') hm)
    refine ⟨last, ?_, hsession, hend⟩
    rw [List.flatMap_cons, run_append, hn m (Nat.le_trans (Nat.le_max_left n n') hm),
      Option.bind_some, hlast]

end Rereading

namespace Session

/-- **Documents can be known by their numbers and read again.** Let locations be asked for one
after the other while the world changes, also in the middle of a call: whatever a location is known
by and whatever is fetched from it, each time. Nothing ever breaks off. Documents with a document
type are accepted as the configuration has it; the document at a place of the library has this
place as its number, and its text can be read as it was when it came in. Every number that is
visited, left or waiting, and every number that inherits a namespace, is that of a document. Where
a document is visited it is looked up and its references are followed, and nothing is noted; and
reading all texts again drops no document. The sessions that there are come to all this: any calls
are some such events, for each call its files, what it asks for, and enough steps. -/
theorem texts_read_again (config : Config) (world : World) :
    (∀ events : List Rereading.Event, ∃ r, (Rereading.start config world).run events = some r ∧
      let library := r.session.library
      library.doctypes = config.doctypes ∧
      (∀ (i : Nat) (document : Document), library.document? i = some document →
        document.id = i ∧ document.reread library.doctypes = .ok document.root) ∧
      (∀ entry ∈ r.session.inherited, entry.1 < library.documents.length) ∧
      (∀ pass, r.pass = some pass → ∀ id ∈ pass.ids, id < library.documents.length) ∧
      (∀ order id tasks, r.pass = some ⟨order, .visit id :: tasks⟩ → ∃ document,
        library.document? id = some document ∧
          r.step .work = some { r with
            pass := some ⟨order, .follow id document.location
              (DocumentReference.ofRoot document.root) :: tasks⟩ }) ∧
      library.reread = library.documents) ∧
    ∀ l : List Call, ∃ n, ∀ m ≥ n, ∃ r,
      (Rereading.start config world).run (l.flatMap (Call.events m)) = some r ∧
        r.session = (Session.new config).calls l ∧ r.pass = none := by
  refine ⟨fun events => ?_, (Rereading.sound_start config world).exists_run_calls rfl⟩
  obtain ⟨r, hrun, hsound⟩ := (Rereading.sound_start config world).run events
  refine ⟨r, hrun, hsound.kept.options, fun i document hget => ?_, hsound.inherited, hsound.pass,
    fun order id tasks hpass => ?_, hsound.kept.reread_eq⟩
  · rw [hsound.kept.options]
    exact hsound.kept.of_document? hget
  · have hlt := hsound.pass _ hpass id
      (List.mem_append_right _ (List.mem_map_of_mem List.mem_cons_self))
    obtain ⟨document, hget⟩ := Library.exists_document?_iff.2 hlt
    refine ⟨document, hget, ?_⟩
    rw [show r.step .work = r.work from rfl, Rereading.work, hpass]
    exact Rereading.visit_eq hsound.kept hget

/-- A schema that is removed and an included one that is overwritten, both in the middle of the
call, are read again as they came in. -/
example :
    let tree := File.Tree.ofTexts
      [("a", Schema.text "" "<s:include schemaLocation='b'/>"),
        ("b", Schema.text "" "<s:complexType name='T'/>")]
    ((Rereading.start {} (.ofTree tree)).run
      [.ask "a", .change (.ofTree (tree.remove "a")), .work, .work,
        .change (.ofTree (tree.write "b" (some "<"))), .work, .work, .work, .work]).map
      (fun r => (r.pass.isNone, r.session.findings.length,
        r.session.types.keys.map ExpandedName.name)) = some (true, 0, ["T"]) := by
  decide +kernel

end Session

end WsdlTypes
