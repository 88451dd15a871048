import Mathlib.Data.List.Chain
import WsdlTypes.Proofs.Traversal.Lead
/-!
# What a document refers to comes before it

A document is left when all its references were followed, so whatever these lead to has come in
by then. It was left earlier, or it is still on the stack; and there it lies below the document,
which a chain of references leads to from everything below it (`reaches_of_linked`). So a document
comes behind what it refers to, unless that leads back to it (`Placed.before_of_leave`). This holds
of the documents that a traversal brings in (`placed_run`), whatever came in before.
-/

namespace WsdlTypes

namespace Library

variable {tree : File.Tree} {library library' : Library} {d e : Document}

/-- With more documents more is referred to. -/
theorem Refers.mono (hsubset : library.documents ⊆ library'.documents)
    (h : library.Refers tree d e) : library'.Refers tree d e := h.imp_left (@hsubset _)

theorem Reaches.mono (hsubset : library.documents ⊆ library'.documents)
    (h : library.Reaches tree d e) : library'.Reaches tree d e :=
  Relation.ReflTransGen.mono (fun _ _ hrefers => Refers.mono hsubset hrefers) _ _ h

end Library

namespace Traversal

variable {tree : File.Tree} {old : List Document} {root : Document} {t t' : Traversal}
variable {library library' : Library} {document found d e : Document}
variable {reference : DocumentReference} {pending : List DocumentReference} {outer : List Frame}

/-- Where a document was left, another one had been left. -/
def Before (order : List Nat) (e d : Document) : Prop :=
  ∃ front back, order = front ++ d.id :: back ∧ e.id ∈ front

/-- How far the documents of a traversal are in order which began in a library of older ones. -/
structure Placed (tree : File.Tree) (old : List Document) (t : Traversal) : Prop where
  entered : ∀ frame ∈ t.stack, frame.document ∈ t.library.documents ∧
    frame.pending ⊆ DocumentReference.ofRoot frame.document.root
  /-- A reference leads from each document on the stack to the one above it. -/
  linked : (t.stack.map Frame.document).IsChain fun inner outer => t.library.Refers tree outer inner
  /-- What a document on the stack refers to was tried, but for what is pending there. -/
  followed : ∀ frame ∈ t.stack, ∀ lead ∈ frame.document.leads,
    lead.reference ∈ frame.pending ∨ lead.location.identity tree ∈ t.library.visited
  /-- What a document refers to that was left was tried. -/
  closed : ∀ d ∈ t.library.documents, d.id ∈ t.order → ∀ lead ∈ d.leads,
    lead.location.identity tree ∈ t.library.visited
  /-- A document that was left lies behind what it refers to, unless that leads back to it. -/
  before : ∀ d ∈ t.library.documents, d.id ∈ t.order → ∀ e, e ∉ old →
    t.library.Refers tree d e → ¬t.library.Reaches tree e d → Before t.order e d

/-- **Every document further down on the stack leads to the one on top.** -/
theorem reaches_of_linked {stack : List Document}
    (hlinked : (document :: stack).IsChain fun inner outer => library.Refers tree outer inner)
    (hmem : d ∈ stack) : library.Reaches tree d document := by
  induction stack generalizing document with
  | nil => cases hmem
  | cons next rest ih =>
    obtain ⟨hrefers, hrest⟩ := List.isChain_cons_cons.1 hlinked
    rcases List.mem_cons.1 hmem with rfl | hmem
    · exact .single hrefers
    · exact (ih hrest hmem).tail hrefers

/-- What came in was left or stands on the stack. -/
theorem Arrivals.left_or_stacked (h : Arrivals old root t)
    (hentered : ∀ frame ∈ t.stack, frame.document ∈ t.library.documents)
    (hmem : e ∈ t.library.documents) (hnew : e ∉ old) :
    e.id ∈ t.order ∨ e ∈ t.stack.map Frame.document := by
  obtain ⟨fresh, hdocuments, hperm⟩ := h.listed
  have hfresh : e ∈ fresh := by
    rw [hdocuments] at hmem
    exact (List.mem_append.1 hmem).resolve_left hnew
  have hagenda : e.id ∈ t.agenda := hperm.mem_iff.2 (List.mem_map_of_mem hfresh)
  refine (List.mem_append.1 hagenda).imp_right fun hstack => ?_
  obtain ⟨frame, hframe, hid⟩ := List.mem_map.1 hstack
  have hsame : frame.document = e :=
    List.inj_on_of_nodup_map h.numbered.nodup_ids (hentered frame hframe) hmem hid
  exact hsame ▸ List.mem_map_of_mem hframe

/-- What was left is not the next document to come in. -/
theorem Arrivals.id_ne_of_mem_order (h : Arrivals old root t)
    (hfound : found.id = t.library.documents.length) {id : Nat} (hid : id ∈ t.order) :
    id ≠ found.id := by
  obtain ⟨fresh, hdocuments, hperm⟩ := h.listed
  obtain ⟨d, hd, rfl⟩ := List.mem_map.1 (hperm.mem_iff.1 (List.mem_append_left _ hid))
  have hlt := h.numbered.id_lt (hdocuments ▸ List.mem_append_right old hd)
  omega

/-! ## One move -/

/-- **A document that is left comes behind what it refers to**, unless that leads back to it. -/
theorem Placed.before_of_leave (h : Placed tree old t) (harrivals : Arrivals old root t)
    (hstack : t.stack = ⟨document, []⟩ :: outer) (hmem : e ∈ t.library.documents) (hnew : e ∉ old)
    (hnot : ¬t.library.Reaches tree e document) : e.id ∈ t.order := by
  have hlinked := h.linked
  rcases harrivals.left_or_stacked (fun frame hframe => (h.entered frame hframe).1) hmem hnew with
    hleft | hstacked
  · exact hleft
  · rw [hstack, List.map_cons] at hlinked hstacked
    rcases List.mem_cons.1 hstacked with rfl | houter
    · exact absurd .refl hnot
    · exact absurd (reaches_of_linked hlinked houter) hnot

/-- A document whose references were all followed is left. -/
theorem Placed.leave (h : Placed tree old t) (harrivals : Arrivals old root t)
    (hstack : t.stack = ⟨document, []⟩ :: outer) :
    Placed tree old { t with order := t.order ++ [document.id], stack := outer } := by
  have hsubset : ∀ frame ∈ outer, frame ∈ t.stack := fun frame hframe => by
    rw [hstack]
    exact List.mem_cons_of_mem _ hframe
  have htop : ⟨document, []⟩ ∈ t.stack := by rw [hstack]; exact List.mem_cons_self
  -- A document that was left was left before, or is the one on top.
  have hleft : ∀ d ∈ t.library.documents, d.id ∈ t.order ++ [document.id] →
      d.id ∈ t.order ∨ d = document := fun d hd hid =>
    (List.mem_append.1 hid).imp_right fun hid =>
      List.inj_on_of_nodup_map harrivals.numbered.nodup_ids hd (h.entered _ htop).1
        (List.mem_singleton.1 hid)
  constructor
  case entered => exact fun frame hframe => h.entered frame (hsubset frame hframe)
  case linked =>
    have hlinked := h.linked
    rw [hstack, List.map_cons] at hlinked
    exact hlinked.tail
  case followed => exact fun frame hframe => h.followed frame (hsubset frame hframe)
  case closed =>
    intro d hd hid lead hlead
    rcases hleft d hd hid with hid | rfl
    · exact h.closed d hd hid lead hlead
    · exact (h.followed _ htop lead hlead).resolve_left List.not_mem_nil
  case before =>
    intro d hd hid e hnew hrefers hnot
    rcases hleft d hd hid with hid | rfl
    · obtain ⟨front, back, horder, hfront⟩ := h.before d hd hid e hnew hrefers hnot
      refine ⟨front, back ++ [document.id], ?_, hfront⟩
      rw [horder, List.append_assoc, List.cons_append]
    · exact ⟨t.order, [], rfl, h.before_of_leave harrivals hstack hrefers.1 hnew hnot⟩

/-- The next reference was followed and brought nothing in. -/
theorem Placed.advance (h : Placed tree old t)
    (hstack : t.stack = ⟨document, reference :: pending⟩ :: outer)
    (hdocuments : library.documents = t.library.documents)
    (hvisited : t.library.visited ⊆ library.visited)
    (hnext : ∀ location, document.location.join reference.location = .ok location →
      location.identity tree ∈ library.visited) (findings : List Finding) :
    Placed tree old { t with library, stack := ⟨document, pending⟩ :: outer, findings } := by
  have htop : ⟨document, reference :: pending⟩ ∈ t.stack := by rw [hstack]; exact List.mem_cons_self
  have hsubset : ∀ frame ∈ outer, frame ∈ t.stack := fun frame hframe => by
    rw [hstack]
    exact List.mem_cons_of_mem _ hframe
  constructor
  case entered =>
    intro frame hframe
    rw [hdocuments]
    rcases List.mem_cons.1 hframe with rfl | houter
    · obtain ⟨hmem, hpending⟩ := h.entered _ htop
      exact ⟨hmem, fun r hr => hpending (List.mem_cons_of_mem _ hr)⟩
    · exact h.entered frame (hsubset frame houter)
  case linked =>
    have hlinked := h.linked
    rw [hstack] at hlinked
    exact hlinked.imp fun _ _ hrefers => hrefers.mono (hdocuments ▸ List.Subset.refl _)
  case followed =>
    intro frame hframe lead hlead
    rcases List.mem_cons.1 hframe with rfl | houter
    · rcases h.followed _ htop lead hlead with hpending | htried
      · -- It is the reference that was followed, or one that is still pending.
        rcases List.mem_cons.1 hpending with heq | hpending
        · have hjoin := (Document.mem_leads.1 hlead).2.2
          rw [heq] at hjoin
          exact Or.inr (hnext _ hjoin)
        · exact Or.inl hpending
      · exact Or.inr (hvisited htried)
    · exact (h.followed frame (hsubset frame houter) lead hlead).imp_right (@hvisited _)
  case closed =>
    intro d hd hid lead hlead
    exact hvisited (h.closed d (hdocuments ▸ hd) hid lead hlead)
  case before =>
    intro d hd hid e hnew hrefers hnot
    exact h.before d (hdocuments ▸ hd) hid e hnew
      (hrefers.mono (hdocuments ▸ List.Subset.refl _)) fun hreaches =>
        hnot (hreaches.mono (hdocuments ▸ List.Subset.refl _))

/-- A document comes in that the one on top refers to, and none that was left. -/
theorem Placed.enter (h : Placed tree old t)
    (hdocuments : library.documents = t.library.documents ++ [found])
    (hvisited : library.visited = t.library.visited)
    (hlast : ∀ id ∈ t.order, id ≠ found.id)
    (hnew : ∀ d ∈ t.library.documents, d.id ∈ t.order → ¬library.Refers tree d found)
    (hrefers : ∀ frame ∈ t.stack.head?, library.Refers tree frame.document found)
    (inherited : List (Nat × String)) :
    Placed tree old { t with library, inherited, stack := Frame.enter found :: t.stack } := by
  have hgrown : t.library.documents ⊆ library.documents := by
    rw [hdocuments]
    exact List.subset_append_left _ _
  have hold : ∀ d ∈ library.documents, d.id ∈ t.order → d ∈ t.library.documents := by
    intro d hd hid
    rw [hdocuments] at hd
    refine (List.mem_append.1 hd).resolve_right fun hsame => hlast _ hid ?_
    rw [List.mem_singleton.1 hsame]
  constructor
  case entered =>
    intro frame hframe
    rcases List.mem_cons.1 hframe with rfl | hframe
    · refine ⟨?_, List.Subset.refl _⟩
      show found ∈ library.documents
      rw [hdocuments]
      exact List.mem_append_right _ (List.mem_singleton_self found)
    · exact (h.entered frame hframe).imp_left (@hgrown _)
  case linked =>
    refine List.isChain_cons.2
      ⟨fun d hd => ?_, h.linked.imp fun _ _ hrefers => hrefers.mono hgrown⟩
    rw [List.head?_map] at hd
    obtain ⟨frame, hframe, rfl⟩ := Option.map_eq_some_iff.1 hd
    exact hrefers frame hframe
  case followed =>
    intro frame hframe lead hlead
    rcases List.mem_cons.1 hframe with rfl | hframe
    · exact Or.inl (Document.mem_leads.1 hlead).2.1
    · rw [hvisited]
      exact h.followed frame hframe lead hlead
  case closed =>
    intro d hd hid lead hlead
    rw [hvisited]
    exact h.closed d (hold d hd hid) hid lead hlead
  case before =>
    intro d hd hid e hfresh hrefers hnot
    have hmem : e ∈ t.library.documents := by
      have hmem := hrefers.1
      rw [hdocuments] at hmem
      refine (List.mem_append.1 hmem).resolve_right fun hsame => ?_
      rw [List.mem_singleton.1 hsame] at hrefers
      exact hnew d (hold d hd hid) hid hrefers
    exact h.before d (hold d hd hid) hid e hfresh ⟨hmem, hrefers.2⟩ fun hreaches =>
      hnot (hreaches.mono hgrown)

/-- **Every move keeps the order.** -/
theorem Placed.move (hmove : Move tree t t') (harrivals : Arrivals old root t)
    (h : Placed tree old t) : Placed tree old t' := by
  cases hmove with
  | leave hstack => exact h.leave harrivals hstack
  | pass hstack hfollow =>
    exact h.advance hstack (Library.documents_follow_of_alreadyLoaded hfollow)
      (Library.visited_subset_follow hfollow)
      (fun _ hjoin => Library.identity_mem_follow hfollow hjoin) t.findings
  | fail hstack hfollow =>
    exact h.advance hstack (Library.documents_follow_of_error hfollow)
      (Library.visited_subset_follow hfollow)
      (fun _ hjoin => Library.identity_mem_follow hfollow hjoin) _
  | @enter document found reference pending outer library hstack hfollow =>
    obtain ⟨location, hjoin, hload⟩ := Library.follow_eq_ok hfollow
    obtain ⟨huntried, hopen, -, hdocuments⟩ := Library.load_eq_loaded hload
    obtain ⟨-, -, hid, rfl⟩ := Library.open?_eq_ok_iff.1 hopen
    -- First the reference is followed, and then the document that it leads to comes in.
    let tried : Library := { t.library with visited := library.visited }
    have hsame : tried.documents = t.library.documents := rfl
    have hvisited : t.library.visited ⊆ library.visited := Library.visited_subset_follow hfollow
    have htried : ∀ other, document.location.join reference.location = .ok other →
        other.identity tree ∈ library.visited :=
      fun _ hjoin => Library.identity_mem_follow hfollow hjoin
    have hnext := h.advance hstack hsame hvisited htried t.findings
    have hreference : reference ∈ DocumentReference.ofRoot document.root :=
      (h.entered ⟨document, reference :: pending⟩ (by rw [hstack]; exact List.mem_cons_self)).2
        List.mem_cons_self
    have hrefers : library.Refers tree document found := by
      refine ⟨?_, ⟨document, reference, found.location⟩,
        Document.mem_leads.2 ⟨rfl, hreference, hjoin⟩, rfl⟩
      rw [hdocuments]
      exact List.mem_append_right _ (List.mem_singleton_self found)
    refine hnext.enter hdocuments rfl (fun id hmem => harrivals.id_ne_of_mem_order hid hmem)
      (fun d hd hleft ⟨_, lead, hlead, hidentity⟩ => ?_) (fun frame hframe => ?_) _
    · -- What a document refers to that was left was tried, and this file was not.
      exact huntried (hidentity ▸ h.closed d hd hleft lead hlead)
    · obtain rfl := Option.some.inj hframe
      exact hrefers

/-! ## A whole run -/

/-- Where a traversal starts no document was left. -/
theorem Placed.ofRoot {location : Location}
    (hload : library.load tree location = (library', .ok (.loaded root)))
    (inherited : List (Nat × String)) :
    Placed tree library.documents (Traversal.ofRoot library' inherited root) := by
  have hroot : root ∈ library'.documents := by
    rw [(Library.load_eq_loaded_append hload).2]
    exact List.mem_append_right _ (List.mem_singleton_self root)
  constructor
  case entered =>
    intro frame hframe
    rw [List.mem_singleton.1 hframe]
    exact ⟨hroot, List.Subset.refl _⟩
  case linked => exact List.isChain_singleton _
  case followed =>
    intro frame hframe lead hlead
    rw [List.mem_singleton.1 hframe] at hlead ⊢
    exact Or.inl (Document.mem_leads.1 hlead).2.1
  case closed => exact fun _ _ hid => absurd hid List.not_mem_nil
  case before => exact fun _ _ hid => absurd hid List.not_mem_nil

/-- **At the end of a traversal** every document that it brought in comes behind what it refers
to, unless that leads back to it. -/
theorem placed_run (harrivals : Arrivals old root t) (h : Placed tree old t) :
    Placed tree old (run tree t) :=
  (run_induction (P := fun t => Arrivals old root t ∧ Placed tree old t)
    (fun hmove h => ⟨h.1.move hmove, h.2.move hmove h.1⟩) ⟨harrivals, h⟩).2

end Traversal

end WsdlTypes
