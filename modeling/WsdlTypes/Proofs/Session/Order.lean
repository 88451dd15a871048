import WsdlTypes.Proofs.Session.Calls
/-!
# Every document is walked once

The documents of a session are numbered in the order in which they came in. A call takes in
the documents that it brought in, each once (`call_order`), so over any calls every document
is taken in by one call, once (`every_document_walked_once`).
-/

namespace WsdlTypes

namespace Session

variable {session : Session} {c : Call}

theorem numbered_new (config : Config) : (Session.new config).library.Numbered := rfl

/-- What a traversal comes to that a document of a numbered library starts. -/
theorem order_traversal {location : Location} {library : Library} {root : Document}
    {tree : File.Tree} (hnumbered : session.library.Numbered)
    (hload : session.library.load tree location = (library, .ok (.loaded root))) :
    (session.traversal tree library root).library.Numbered ∧
      (∃ fresh,
        (session.traversal tree library root).library.documents
          = session.library.documents ++ fresh ∧
        (session.traversal tree library root).order.Perm (fresh.map Document.id)) ∧
      (session.traversal tree library root).order.getLast? = some root.id :=
  Traversal.order_run (.ofRoot hnumbered hload session.inherited)

/-- **A call takes in what it brought in**, each document once and nothing else. -/
theorem call_order (hnumbered : session.library.Numbered) :
    (session.call c).library.Numbered ∧
      ∃ fresh, (session.call c).library.documents = session.library.documents ++ fresh ∧
        (session.order c).Perm (fresh.map Document.id) := by
  have houtcome := call_outcome session c
  generalize session.call c = next at houtcome
  cases houtcome with
  | quiet horder visited =>
    exact ⟨hnumbered, [], (List.append_nil _).symm, by rw [horder]; exact List.Perm.refl _⟩
  | absorbed hparse hload =>
    obtain ⟨hnext, hfresh, -⟩ := order_traversal hnumbered hload
    rw [order_of_loaded hparse hload]
    exact ⟨hnext, hfresh⟩

theorem numbered_calls (hnumbered : session.library.Numbered) (l : List Call) :
    (session.calls l).library.Numbered :=
  calls_induction (P := fun s => s.library.Numbered) (fun h => (call_order h).1) hnumbered l

/-- A call that takes nothing in changes nothing but what counts as tried. -/
theorem call_of_order_eq_nil (hnumbered : session.library.Numbered) (h : session.order c = []) :
    ∃ visited,
      session.call c = { session with library := { session.library with visited } } := by
  have houtcome := call_outcome session c
  generalize session.call c = next at houtcome
  cases houtcome with
  | quiet _ visited => exact ⟨visited, rfl⟩
  | absorbed hparse hload =>
    -- The document that was asked for would be in the order.
    obtain ⟨-, -, hlast⟩ := order_traversal hnumbered hload
    rw [order_of_loaded hparse hload] at h
    rw [h] at hlast
    cases hlast

/-- Over some calls the documents that were there stay, and the orders list those that came
in behind them. -/
theorem orders_perm (hnumbered : session.library.Numbered) (l : List Call) :
    ∃ fresh, (session.calls l).library.documents = session.library.documents ++ fresh ∧
      (session.orders l).flatten.Perm (fresh.map Document.id) := by
  induction l generalizing session with
  | nil => exact ⟨[], (List.append_nil _).symm, List.Perm.refl _⟩
  | cons c rest ih =>
    obtain ⟨hnext, first, hfirst, hperm⟩ := call_order (c := c) hnumbered
    obtain ⟨later, hlater, hrest⟩ := ih hnext
    refine ⟨first ++ later, ?_, ?_⟩
    · rw [calls_cons, hlater, hfirst, List.append_assoc]
    · rw [orders, List.flatten_cons, List.map_append]
      exact hperm.append hrest

/-- **Every document is walked once.** Whatever the files and whatever refers to what, a call
that brings a document in follows references for a bounded number of steps, one for each reference
of a document that comes in and one more for each document; the order that
comes of it lists the documents that came in by this call, each once, nothing else, and the
document that was asked for at the end; and their declarations are walked in this order. Any
other call walks nothing. So the orders of any calls together list every document of the
session once. -/
theorem every_document_walked_once (config : Config) (l : List Call) :
    let session := (Session.new config).calls l
    (∀ (c : Call) (location : Location) (library : Library) (root : Document),
      Location.parse c.source = .ok location →
      session.library.load c.tree location = (library, .ok (.loaded root)) →
      let start := Traversal.ofRoot library session.inherited root
      let t := session.traversal c.tree library root
      session.call c = (session.arrived t).takeIn t.order ∧
        (∃ fresh, t.library.documents = session.library.documents ++ fresh ∧
          t.order.Perm (fresh.map Document.id) ∧
          ∃ n ≤ start.measure c.tree, (Traversal.advance c.tree)^[n] start = t ∧ t.stack = [] ∧
            n = Traversal.steps fresh) ∧
        t.order.Nodup ∧ t.order.getLast? = some root.id) ∧
      (∀ c, session.order c = [] → ∃ visited,
        session.call c = { session with library := { session.library with visited } }) ∧
      session.library.documents.map Document.id
        = List.range session.library.documents.length ∧
      ((Session.new config).orders l).flatten.Perm
        (List.range session.library.documents.length) := by
  intro session
  have hnumbered : session.library.Numbered := numbered_calls (numbered_new config) l
  refine ⟨?_, fun c hc => call_of_order_eq_nil hnumbered hc, hnumbered, ?_⟩
  · intro c location library root hparse hload start t
    obtain ⟨hnext, ⟨fresh, hdocuments, hperm⟩, hlast⟩ := order_traversal hnumbered hload
    refine ⟨call_eq_of_loaded hparse hload, ⟨fresh, hdocuments, hperm, ?_⟩, ?_, hlast⟩
    · obtain ⟨n, hn, -, hrun, hsteps⟩ := Traversal.exists_iterate_eq_run c.tree start
      refine ⟨n, hn, hrun, Traversal.stack_run .., ?_⟩
      -- The document that was asked for counts on the stack, and is one of those that came in.
      have hroot : library.documents = session.library.documents ++ [root] :=
        (Library.load_eq_loaded_append hload).2
      have hend : (Traversal.run c.tree start).library.documents
          = session.library.documents ++ fresh := hdocuments
      have hstack : Traversal.total (start.stack.map Frame.size) = Traversal.steps [root] := rfl
      have hstart : start.library.documents = library.documents := rfl
      rw [hstack, hend, hstart, hroot, Traversal.steps_append, Traversal.steps_append] at hsteps
      omega
    · -- The documents that came in have different numbers, as all documents have.
      have hids := hnext.nodup_ids
      rw [hdocuments, List.map_append] at hids
      exact hperm.nodup_iff.2 (List.nodup_append.1 hids).2.1
  · obtain ⟨fresh, hdocuments, hperm⟩ := orders_perm (numbered_new config) l
    have hfresh : session.library.documents = fresh := hdocuments
    rw [← hfresh, hnumbered] at hperm
    exact hperm

end Session

end WsdlTypes
