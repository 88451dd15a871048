import WsdlTypes.Proofs.References
import WsdlTypes.Proofs.Session.Stages
/-!
# What is checked, and when

A call checks the types whose names it brought in, against the map that it leaves
(`mem_findings_call`). A later call may merge a declaration into such a type, and then the
type is not looked at again. So what a session reports about references is told by the types
as they were when the calls were over that brought their names in (`CameIn`,
`mem_findings_calls`): a reference to what is missing is reported exactly where a type of the
same local name had it then, and a loop where there was one then (`reported_iff`). What a
merge brings in later may go unreported (`merged_reference_unreported`).
-/

namespace WsdlTypes

namespace Session

variable {session : Session} {c : Call} {l : List Call}
variable {key : ExpandedName} {types types' : TypeMap} {finding : Finding}

/-! ## One call -/

/-- A call keeps every type under its own name. -/
theorem keyed_call (h : session.types.Keyed) : (session.call c).types.Keyed := by
  rw [types_call]
  exact (Walk.sound_documents h _).keyed

/-- And no name goes. -/
theorem mem_keys_call (h : session.types.Keyed) (hkey : key ∈ session.types.keys) :
    key ∈ (session.call c).types.keys := by
  rw [types_call]
  exact (Walk.sound_documents h _).kept key hkey

/-- **A call checks what it brought in**: of references it reports what is wrong with the
types of new names, in the map that it leaves. -/
theorem mem_findings_call (h : session.types.Keyed) (hstage : finding.problem.stage = .reference) :
    finding ∈ (session.call c).findings ↔
      finding ∈ session.findings ∨
        ∃ key type, key ∉ session.types.keys ∧ (session.call c).types.get? key = some type ∧
          finding ∈ (References.checkType (session.call c).types key type).findings := by
  have hduring : ∀ s : Session, finding ∈ s.findings ↔ finding ∈ s.during .reference := fun s => by
    rw [mem_during, and_iff_left hstage]
  have hsound : Walk.Sound session.types (session.walked c).value :=
    Walk.sound_documents h (session.order c)
  have htypes : (session.call c).types = (session.walked c).value.types := types_call
  rw [hduring, hduring session, during_reference_call, List.mem_append, htypes,
    References.mem_findings_check]
  refine or_congr_right ⟨?_, ?_⟩
  · rintro ⟨key, hfresh, type, hget, hfinding⟩
    exact ⟨key, type, ((hsound.fresh key).1 hfresh).2, hget, hfinding⟩
  · rintro ⟨key, type, hnew, hget, hfinding⟩
    have hkey := SortedMap.mem_keys_iff.2 ⟨type, hget⟩
    exact ⟨key, (hsound.fresh key).2 ⟨hkey, hnew⟩, type, hget, hfinding⟩

/-! ## Many calls -/

/-- A name came into the map of a session by one of some calls, and the map was this when the
call was over. -/
inductive CameIn : Session → List Call → ExpandedName → TypeMap → Prop where
  | now {session : Session} {c : Call} {rest : List Call} {key : ExpandedName}
      (hnew : key ∉ session.types.keys) (hkey : key ∈ (session.call c).types.keys) :
      CameIn session (c :: rest) key (session.call c).types
  | later {session : Session} {c : Call} {rest : List Call} {key : ExpandedName}
      {types : TypeMap} (h : CameIn (session.call c) rest key types) :
      CameIn session (c :: rest) key types

theorem keyed_calls (h : session.types.Keyed) (l : List Call) : (session.calls l).types.Keyed :=
  calls_induction (P := fun s => s.types.Keyed) keyed_call h l

theorem mem_keys_calls (h : session.types.Keyed) (hkey : key ∈ session.types.keys) (l : List Call) :
    key ∈ (session.calls l).types.keys :=
  (calls_induction (P := fun s => s.types.Keyed ∧ key ∈ s.types.keys)
    (fun ih => ⟨keyed_call ih.1, mem_keys_call ih.1 ih.2⟩) ⟨h, hkey⟩ l).2

/-- What comes in was not there. -/
theorem CameIn.not_mem_keys (h : CameIn session l key types) (hkeyed : session.types.Keyed) :
    key ∉ session.types.keys := by
  induction h with
  | now hnew => exact hnew
  | later _ ih => exact fun hold => ih (keyed_call hkeyed) (mem_keys_call hkeyed hold)

/-- **A name comes in once.** -/
theorem CameIn.unique (h : CameIn session l key types) (hkeyed : session.types.Keyed)
    (h' : CameIn session l key types') : types = types' := by
  induction h with
  | now hnew hkey =>
    cases h' with
    | now => rfl
    | later hlater => exact absurd hkey (hlater.not_mem_keys (keyed_call hkeyed))
  | later hlater ih =>
    cases h' with
    | now hnew hkey => exact absurd hkey (hlater.not_mem_keys (keyed_call hkeyed))
    | later h' => exact ih (keyed_call hkeyed) h'

/-- A name that is there in the end and was not at the start came in. -/
theorem exists_cameIn (hnew : key ∉ session.types.keys)
    (hkey : key ∈ (session.calls l).types.keys) : ∃ types, CameIn session l key types := by
  induction l generalizing session with
  | nil => exact absurd hkey hnew
  | cons c rest ih =>
    by_cases hnow : key ∈ (session.call c).types.keys
    · exact ⟨_, .now hnew hnow⟩
    · obtain ⟨types, h⟩ := ih hnow hkey
      exact ⟨types, h.later⟩

/-- What came in was in the map then. -/
theorem CameIn.exists_get? (h : CameIn session l key types) :
    ∃ type, types.get? key = some type := by
  induction h with
  | now _ hkey => exact SortedMap.mem_keys_iff.1 hkey
  | later _ ih => exact ih

/-- What was in the map then is in the map in the end. -/
theorem CameIn.mem_keys (h : CameIn session l key types) (hkeyed : session.types.Keyed)
    {other : ExpandedName} (hother : other ∈ types.keys) :
    other ∈ (session.calls l).types.keys := by
  induction h with
  | now _ _ => exact mem_keys_calls (keyed_call hkeyed) hother _
  | later _ ih => exact ih (keyed_call hkeyed) hother

/-- And every type was under its own name then. -/
theorem CameIn.keyed (h : CameIn session l key types) (hkeyed : session.types.Keyed) :
    types.Keyed := by
  induction h with
  | now _ _ => exact keyed_call hkeyed
  | later _ ih => exact ih (keyed_call hkeyed)

/-- **What calls report of references** is what was wrong with the types of the names that
came in, when they came in. -/
theorem mem_findings_calls (hkeyed : session.types.Keyed)
    (hstage : finding.problem.stage = .reference) (l : List Call) :
    finding ∈ (session.calls l).findings ↔
      finding ∈ session.findings ∨
        ∃ key types type, CameIn session l key types ∧ types.get? key = some type ∧
          finding ∈ (References.checkType types key type).findings := by
  induction l generalizing session with
  | nil =>
    refine ⟨Or.inl, fun h => h.resolve_right ?_⟩
    rintro ⟨key, types, type, h, -⟩
    cases h
  | cons c rest ih =>
    rw [calls_cons, ih (keyed_call hkeyed), mem_findings_call hkeyed hstage]
    constructor
    · rintro ((hold | ⟨key, type, hnew, hget, hfinding⟩) | ⟨key, types, type, h, hget, hfinding⟩)
      · exact Or.inl hold
      · exact Or.inr ⟨key, _, type, .now hnew (SortedMap.mem_keys_iff.2 ⟨type, hget⟩), hget,
          hfinding⟩
      · exact Or.inr ⟨key, types, type, h.later, hget, hfinding⟩
    · rintro (hold | ⟨key, types, type, h, hget, hfinding⟩)
      · exact Or.inl (Or.inl hold)
      · cases h with
        | now hnew _ => exact Or.inl (Or.inr ⟨key, type, hnew, hget, hfinding⟩)
        | later h => exact Or.inr ⟨key, types, type, h, hget, hfinding⟩

section

variable {config : Config} {type : TypeDescriptor}

/-- A new session has reported nothing, so what it reports of references later comes of a
check. -/
theorem mem_findings_new_calls (hstage : finding.problem.stage = .reference) (l : List Call) :
    finding ∈ ((Session.new config).calls l).findings ↔
      ∃ key types type, CameIn (Session.new config) l key types ∧ types.get? key = some type ∧
        finding ∈ (References.checkType types key type).findings := by
  rw [mem_findings_calls TypeMap.keyed_empty hstage]
  exact ⟨fun h => h.resolve_left List.not_mem_nil, Or.inr⟩

/-- The name of a type is the local one of the name that it came in under. -/
theorem CameIn.name_eq (h : CameIn (Session.new config) l key types)
    (hget : types.get? key = some type) : type.name = key.name :=
  (h.keyed TypeMap.keyed_empty key type hget).2

/-- **A reference to what is missing is reported** where a type of the same local name had it
when it came in, and nowhere else. -/
theorem exists_undeclaredReference_iff {name referrer : String} {target : ExpandedName}
    (hmissing : target ∉ ((Session.new config).calls l).types.keys) :
    (∃ finding ∈ ((Session.new config).calls l).findings,
        finding.problem = .undeclaredReference target referrer name) ↔
      ∃ key types type, CameIn (Session.new config) l key types ∧ key.name = name ∧
        types.get? key = some type ∧ type.Refers referrer target := by
  constructor
  · rintro ⟨finding, hfinding, hproblem⟩
    have hstage : finding.problem.stage = .reference := by
      rw [hproblem]
      rfl
    obtain ⟨key, types, type, h, hget, hfinding⟩ := (mem_findings_new_calls hstage l).1 hfinding
    rcases References.mem_findings_checkType.1 hfinding with
      ⟨referrer', target', href, -, rfl⟩ | ⟨closedBy, -, rfl⟩
    · simp only [Problem.undeclaredReference.injEq] at hproblem
      obtain ⟨rfl, rfl, hname⟩ := hproblem
      exact ⟨key, types, type, h, (h.name_eq hget).symm.trans hname, hget, href⟩
    · cases hproblem
  · rintro ⟨key, types, type, h, hname, hget, href⟩
    -- What is missing now was missing then.
    have hthen : target ∉ types.keys := fun hthen => hmissing (h.mem_keys TypeMap.keyed_empty hthen)
    refine ⟨⟨.undeclaredReference target referrer type.name, type.location, 0⟩,
      (mem_findings_new_calls rfl l).2 ⟨key, types, type, h, hget, ?_⟩, ?_⟩
    · exact References.mem_findings_checkType.2 (Or.inl ⟨referrer, target, href, hthen, rfl⟩)
    · rw [h.name_eq hget, hname]

/-- **A loop is reported** where a type of the same local name was in one when it came in, and
nowhere else. -/
theorem exists_inheritanceLoop_iff {name : String} :
    (∃ finding ∈ ((Session.new config).calls l).findings, ∃ closedBy,
        finding.problem = .inheritanceLoop name closedBy) ↔
      ∃ key types path, CameIn (Session.new config) l key types ∧ key.name = name ∧
        types.Ascends key path ∧ ¬(key :: path).Nodup := by
  constructor
  · rintro ⟨finding, hfinding, closedBy, hproblem⟩
    have hstage : finding.problem.stage = .reference := by
      rw [hproblem]
      rfl
    obtain ⟨key, types, type, h, hget, hfinding⟩ := (mem_findings_new_calls hstage l).1 hfinding
    rcases References.mem_findings_checkType.1 hfinding with
      ⟨referrer, target, -, -, rfl⟩ | ⟨closedBy', hloop, rfl⟩
    · cases hproblem
    · simp only [Problem.inheritanceLoop.injEq] at hproblem
      obtain ⟨path, hpath, htwice⟩ := TypeMap.exists_loop hloop
      exact ⟨key, types, path, h, (h.name_eq hget).symm.trans hproblem.1, hpath, htwice⟩
  · rintro ⟨key, types, path, h, hname, hpath, htwice⟩
    obtain ⟨type, hget⟩ := h.exists_get?
    obtain ⟨closedBy, hloop⟩ := TypeMap.exists_parentCycle? hpath htwice
    refine ⟨⟨.inheritanceLoop type.name closedBy, type.location, 0⟩,
      (mem_findings_new_calls rfl l).2 ⟨key, types, type, h, hget, ?_⟩, closedBy, ?_⟩
    · exact References.mem_findings_checkType.2 (Or.inr ⟨closedBy, hloop, rfl⟩)
    · rw [h.name_eq hget, hname]

end

/-- **When a session reports what a type refers to, and when a loop.** Every type of a session
came in by one call. A reference of it to what is not in the map is reported exactly where a
type of its local name had this reference when the call was over that brought it in; and a
loop is reported for its name exactly where a type of this name was in a loop then. -/
theorem reported_iff (config : Config) (l : List Call) :
    let session := (Session.new config).calls l
    (∀ key ∈ session.types.keys, ∃ types, CameIn (Session.new config) l key types ∧
        ∀ types', CameIn (Session.new config) l key types' → types' = types) ∧
      (∀ key type referrer target, session.types.get? key = some type →
        type.Refers referrer target → target ∉ session.types.keys →
        ((∃ finding ∈ session.findings,
            finding.problem = .undeclaredReference target referrer type.name) ↔
          ∃ key' types type', CameIn (Session.new config) l key' types ∧
            key'.name = key.name ∧ types.get? key' = some type' ∧
            type'.Refers referrer target)) ∧
      ∀ key type, session.types.get? key = some type →
        ((∃ finding ∈ session.findings, ∃ closedBy,
            finding.problem = .inheritanceLoop type.name closedBy) ↔
          ∃ key' types path, CameIn (Session.new config) l key' types ∧
            key'.name = key.name ∧ types.Ascends key' path ∧ ¬(key' :: path).Nodup) := by
  intro session
  have hkeyed : session.types.Keyed := keyed_calls TypeMap.keyed_empty l
  refine ⟨fun key hkey => ?_, fun key type referrer target hget _ hmissing => ?_,
    fun key type hget => ?_⟩
  · obtain ⟨types, h⟩ := exists_cameIn List.not_mem_nil hkey
    exact ⟨types, h, fun types' h' => h'.unique TypeMap.keyed_empty h⟩
  · rw [(hkeyed key type hget).2]
    exact exists_undeclaredReference_iff hmissing
  · rw [(hkeyed key type hget).2]
    exact exists_inheritanceLoop_iff

/-- The second call gives the type `T` a parent that is declared nowhere, and of this nothing
is reported: the type came in by the first call, which found nothing wrong with it. -/
theorem merged_reference_unreported :
    let directory := File.Tree.ofTexts
      [("a.xsd", Schema.text "" "<s:element name='T'/>"),
        ("b.xsd", Schema.text "" "<s:element name='T' type='M'/>")]
    let session := (Session.new {}).calls [⟨directory, "a.xsd"⟩, ⟨directory, "b.xsd"⟩]
    (∃ type, session.types.get? ⟨"", "T"⟩ = some type ∧ type.Refers "parent" ⟨"", "M"⟩) ∧
      ⟨"", "M"⟩ ∉ session.types.keys ∧
      ∀ finding ∈ session.findings,
        finding.problem ≠ .undeclaredReference ⟨"", "M"⟩ "parent" "T" := by
  intro directory session
  have hparent : session.types.parent? ⟨"", "T"⟩ = some ⟨"", "M"⟩ := by decide +kernel
  obtain ⟨type, hget, hparent⟩ := Option.bind_eq_some_iff.1 hparent
  refine ⟨⟨type, hget, .parent hparent⟩, ?_, ?_⟩
  · decide +kernel
  · decide +kernel

end Session

end WsdlTypes
