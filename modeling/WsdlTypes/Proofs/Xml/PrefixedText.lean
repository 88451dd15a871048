import WsdlTypes.Proofs.Lockstep.Report
import WsdlTypes.Proofs.Xml.Prefixes
import WsdlTypes.Xml.Document
/-!
# Texts under other prefixes

The prefixes of a text are renamed where its tags and the names of its attributes have them,
where they are declared, and in the values that name something (`Token.Renamed`). Nothing else of
a text is touched, but for the columns in which it stands. Unless it declares entities, which may
hold markup of their own, a text with its prefixes renamed is the same document with its prefixes
renamed, or none as before (`renamedText_of_tokens`): tags match that did, prefixes are declared
that were, and no attribute comes twice that did not.
-/

namespace WsdlTypes

variable (ρ : PrefixRenaming)

/-- Two texts that both are no document, or are the same one but for its prefixes. -/
def RenamedText (doctypes : Bool) (text text' : String) : Prop :=
  Agree (fun _ _ => True) (fun root root' => root' = root.renamed ρ)
    (Xml.Element.parse doctypes text) (Xml.Element.parse doctypes text')

namespace Xml

open Text (Cursor Position)

/-! ## Names and values -/

/-- The name with its prefix renamed. -/
def Name.renamed (name : Name) : Name := { name with nsPrefix := ρ.rename name.nsPrefix }

/-- The name of an attribute with its prefix renamed, or with the prefix that it declares. -/
def Name.renamedAttribute (name : Name) : Name :=
  if name.nsPrefix = "xmlns" then { name with name := ρ.rename name.name } else name.renamed ρ

/-- The value of an attribute with the prefix in it renamed, where it names something by one. -/
def Name.renamedValue (name : Name) (value : String) : String :=
  if name.nsPrefix = "" then QName.renamedIn ρ name.name value else value

/-- The value that a run spells where there are no entities. -/
def spelled (run : Cursor) : Except Error String :=
  (Growth.valueOf entityDepth {} run).map Prod.snd

/-- The piece wherever it stands. -/
def Piece.unplaced : Piece → Piece
  | .char c => .char c
  | .reference c _ => .reference c .first
  | .entity name _ _ => .entity name .first .first
  | .malformed _ => .malformed .first

/-- Whether the second of two tokens is the first one with its prefixes renamed. -/
def Token.isRenamed : Token → Token → Bool
  | .tagStart name p, .tagStart name' p' => name' = name.renamed ρ && p'.row = p.row
  | .attribute name value _, .attribute name' value' _ =>
    name' = name.renamedAttribute ρ &&
      (spelled value').toOption = (spelled value).toOption.map (name.renamedValue ρ)
  | .tagEnd isEmpty, .tagEnd isEmpty' => isEmpty' = isEmpty
  | .close name _, .close name' _ => name' = name.renamed ρ
  | .text run, .text run' =>
    (Piece.ofRun run').map Piece.unplaced = (Piece.ofRun run).map Piece.unplaced
  | .cdata run, .cdata run' => run' = run
  | _, _ => false

/-- Two readings of texts of which the second has the prefixes renamed, and which both are
stopped or both come to the end. No entity is declared: its text could hold anything. -/
structure Tokens.Renamed (read read' : Tokens) : Prop where
  tokens : List.Forall₂ (fun token token' => token.isRenamed ρ token' = true) read.tokens
    read'.tokens
  failure : read'.failure.isSome = read.failure.isSome

variable {ρ}

theorem PrefixRenaming.isEmpty_rename (nsPrefix : String) :
    (ρ.rename nsPrefix).isEmpty = nsPrefix.isEmpty := by
  rw [Bool.eq_iff_iff, String.isEmpty_iff, String.isEmpty_iff]
  exact ρ.rename_eq_iff _ (by decide)

theorem Name.renamed_injective : Function.Injective (Name.renamed ρ) := by
  rintro ⟨nsPrefix, name⟩ ⟨nsPrefix', name'⟩ h
  simp only [renamed, Name.mk.injEq] at h ⊢
  exact ⟨ρ.injective h.1, h.2⟩

/-! ## Scopes -/

/-- What a tag declares hides what it hid. -/
theorem Growth.scopeWithin_renamed (declared outer : Scope) :
    scopeWithin (declared.renamed ρ) (outer.renamed ρ)
      = (scopeWithin declared outer).renamed ρ := by
  have hhidden : (fun binding : String × String => ((declared.renamed ρ).uri? binding.1).isNone)
      ∘ (fun binding : String × String => (ρ.rename binding.1, binding.2))
        = fun binding : String × String => (declared.uri? binding.1).isNone := by
    funext binding
    simp only [Function.comp_apply, Scope.uri?_renamed]
  simp only [Scope.renamed] at hhidden
  simp only [scopeWithin, Scope.renamed, List.map_append, List.filter_map, hhidden]

section

variable (scope : Scope) (name : Name) (p p' : Position)

/-- **A prefix of a tag stands for the same namespace**, or for none as before. -/
theorem Growth.agree_uriOf :
    Agree (fun _ _ => True) Eq (uriOf scope name p)
      (uriOf (scope.renamed ρ) (name.renamed ρ) p') := by
  simp only [uriOf, Name.renamed, Scope.uri?_renamed, PrefixRenaming.isEmpty_rename]
  split
  · exact .ok rfl
  · split
    · exact .ok rfl
    · exact .error trivial

/-- **So does the prefix of an attribute**, which has no namespace where it has no prefix, and
only there. -/
theorem Growth.agree_attributeUri :
    Agree (fun _ _ => True) (fun uri uri' => uri' = uri ∧ (uri = none ↔ name.nsPrefix = ""))
      (attributeUri scope name p) (attributeUri (scope.renamed ρ) (name.renamed ρ) p') := by
  have hfront : (name.renamed ρ).nsPrefix = ρ.rename name.nsPrefix := rfl
  unfold attributeUri
  simp only [hfront, PrefixRenaming.isEmpty_rename, ρ.rename_eq_iff "xml" (by decide)]
  by_cases hempty : name.nsPrefix.isEmpty = true
  · simp only [if_pos hempty]
    exact .ok ⟨rfl, iff_of_true rfl (String.isEmpty_iff.1 hempty)⟩
  · have hne : name.nsPrefix ≠ "" := fun heq => hempty (String.isEmpty_iff.2 heq)
    simp only [if_neg hempty]
    split
    · exact .ok ⟨rfl, iff_of_false (Option.some_ne_none _) hne⟩
    · simp only [uriOf, hfront, Scope.uri?_renamed, PrefixRenaming.isEmpty_rename, if_neg hempty]
      split
      · exact .ok ⟨rfl, iff_of_false (Option.some_ne_none _) hne⟩
      · exact .error trivial

end

/-! ## Trees on their way -/

/-- An attribute that waits for the end of its tag, and the same one with prefixes renamed. -/
def Growth.Waiting (ρ : PrefixRenaming) (a a' : Name × String × Position) : Prop :=
  a'.1 = a.1.renamed ρ ∧ a'.2.1 = a.1.renamedValue ρ a.2.1

/-- Two open elements of which the second is the first one with its prefixes renamed. -/
structure OpenElement.Renamed (ρ : PrefixRenaming) (o o' : OpenElement) : Prop where
  written : o'.written = o.written.renamed ρ
  start : o'.start = o.start.renamed ρ
  held : o'.held = o.held.map (Sum.map id (Element.renamed ρ))

/-- Two trees on their way, without entities, of which the second is the first one with its
prefixes renamed. -/
structure Growth.Renamed (ρ : PrefixRenaming) (g g' : Growth) : Prop where
  entities : g.entities = []
  entities' : g'.entities = []
  tag : Option.Rel (fun tag tag' => tag'.1 = tag.1.renamed ρ ∧ tag'.2.row = tag.2.row) g.tag g'.tag
  declared : g'.declared = g.declared.renamed ρ
  attributes : List.Forall₂ (Growth.Waiting ρ) g.attributes g'.attributes
  opened : List.Forall₂ (OpenElement.Renamed ρ) g.opened g'.opened
  roots : g'.roots = g.roots.map (Element.renamed ρ)

theorem Content.ofList_renamed (l : List (String ⊕ Element)) :
    (ofList l).renamed ρ = ofList (l.map (Sum.map id (Element.renamed ρ))) := by
  induction l with
  | nil => rfl
  | cons first rest ih =>
    cases first with
    | inl chars => simp only [ofList, renamed, List.map_cons, Sum.map_inl, id, ih]
    | inr child => simp only [ofList, renamed, List.map_cons, Sum.map_inr, ih]

theorem OpenElement.Renamed.close {o o' : OpenElement} (h : o.Renamed ρ o') :
    o'.close = o.close.renamed ρ := by
  simp only [OpenElement.close, Element.renamed, h.start, h.held, ← List.map_reverse,
    Content.ofList_renamed]

namespace Growth

theorem renamed_empty : Growth.Renamed ρ {} {} :=
  ⟨rfl, rfl, .none, rfl, .nil, .nil, rfl⟩

/-- What pieces spell without entities does not depend on the tree. -/
theorem spell_eq {g : Growth} (hg : g.entities = [])
    (expand : Growth → Cursor → Position → List Char → Except Error (Growth × List Char))
    (nested : Bool) (value : List Char) (pieces : List Piece) :
    spell expand nested g value pieces
      = (spell expand nested {} value pieces).map fun found => (g, found.2) := by
  induction pieces generalizing value with
  | nil => rfl
  | cons piece rest ih =>
    cases piece with
    | char c => exact ih _
    | reference c p =>
      simp only [spell]
      split
      · exact ih _
      · split
        · rfl
        · exact ih _
    | entity name p behind => simp only [spell, hg, List.lookup_nil, Except.map]
    | malformed p => rfl

theorem valueOf_eq {g : Growth} (hg : g.entities = []) (run : Cursor) :
    g.valueOf entityDepth run = (spelled run).map fun value => (g, value) := by
  unfold spelled Growth.valueOf
  rw [spell_eq hg]
  cases spell (expandValue entityDepth) (entityDepth != entityDepth) {} [] (Piece.ofRun run) <;> rfl

namespace Renamed

variable {g g' : Growth} (h : g.Renamed ρ g')

include h

theorem scope : g'.scope = g.scope.renamed ρ := by
  have hopened := h.opened
  unfold Growth.scope
  generalize g.opened = opened, g'.opened = opened' at hopened
  cases hopened with
  | nil => rfl
  | cons hfirst _ => simp only [hfirst.start, StartTag.renamed]

theorem addElement (e : Element) :
    (g.addElement e).Renamed ρ (g'.addElement (e.renamed ρ)) := by
  have hopened := h.opened
  unfold Growth.addElement
  cases hfirst : g.opened with
  | nil =>
    rw [hfirst, List.forall₂_nil_left_iff] at hopened
    simp only [hopened]
    exact { h with
      opened := .nil
      roots := by rw [h.roots, List.map_cons] }
  | cons o outer =>
    rw [hfirst, List.forall₂_cons_left_iff] at hopened
    obtain ⟨o', outer', ho, houter, hsecond⟩ := hopened
    simp only [hsecond]
    refine { h with opened := .cons ⟨ho.written, ho.start, ?_⟩ houter }
    rw [ho.held, List.map_cons, Sum.map_inr]

theorem addText (backwards : List Char) :
    (g.addText backwards).Renamed ρ (g'.addText backwards) := by
  have hopened := h.opened
  unfold Growth.addText
  cases hfirst : g.opened with
  | nil =>
    rw [hfirst, List.forall₂_nil_left_iff] at hopened
    simp only [hopened]
    exact h
  | cons o outer =>
    rw [hfirst, List.forall₂_cons_left_iff] at hopened
    obtain ⟨o', outer', ho, houter, hsecond⟩ := hopened
    simp only [hsecond]
    cases backwards with
    | nil => exact h
    | cons c rest =>
      refine { h with opened := .cons ⟨ho.written, ho.start, ?_⟩ houter }
      rw [ho.held, List.map_cons, Sum.map_inl, id]

theorem addSection (text run : List Char) :
    (g.addSection text run).Renamed ρ (g'.addSection text run) := by
  induction run generalizing text with
  | nil => exact h.addText text
  | cons c rest ih => exact ih _

/-- **Texts are added alike** that are made of the same pieces. -/
theorem addPieces (expand expand' : Growth → Cursor → Position → Except Error Growth)
    (nested : Bool) (text : List Char) (asIs : Bool) {pieces pieces' : List Piece}
    (hpieces : pieces'.map Piece.unplaced = pieces.map Piece.unplaced) :
    Agree (fun _ _ => True) (Growth.Renamed ρ)
      (Growth.addPieces expand nested g text asIs pieces)
      (Growth.addPieces expand' nested g' text asIs pieces') := by
  induction pieces generalizing pieces' text asIs with
  | nil =>
    rw [List.map_nil, List.map_eq_nil_iff] at hpieces
    subst hpieces
    exact .ok (h.addText text)
  | cons piece rest ih =>
    obtain ⟨piece', rest', rfl, hpiece, hrest⟩ := List.map_eq_cons_iff.1 hpieces
    have hempty : rest'.isEmpty = rest.isEmpty := by
      rw [← List.isEmpty_map (f := Piece.unplaced), hrest, List.isEmpty_map]
    cases piece with
    | char c =>
      cases piece' <;> simp only [Piece.unplaced, reduceCtorEq, Piece.char.injEq] at hpiece
      subst hpiece
      simp only [Growth.addPieces, hempty]
      exact ih _ _ hrest
    | reference c p =>
      cases piece' <;>
        simp only [Piece.unplaced, reduceCtorEq, Piece.reference.injEq, and_true] at hpiece
      subst hpiece
      simp only [Growth.addPieces, hempty]
      split <;> exact ih _ _ hrest
    | entity name p behind =>
      -- No entity is declared on either side.
      cases piece' <;>
        simp only [Piece.unplaced, reduceCtorEq, Piece.entity.injEq, and_true] at hpiece
      simp only [Growth.addPieces, h.entities, h.entities', List.lookup_nil]
      exact .error trivial
    | malformed p =>
      cases piece' <;> simp only [Piece.unplaced, reduceCtorEq] at hpiece
      exact .error trivial

/-- **An attribute is taken alike**, be it the declaration of a prefix or another one. -/
theorem takeAttribute (name : Name) (value : String) (p p' : Position) :
    Agree (fun _ _ => True) (Growth.Renamed ρ) (g.takeAttribute name value p)
      (g'.takeAttribute (name.renamedAttribute ρ) (name.renamedValue ρ value) p') := by
  unfold Growth.takeAttribute
  by_cases hdeclares : name.nsPrefix = "xmlns"
  · -- The attribute declares a prefix, which stands behind the colon.
    have hname : name.renamedAttribute ρ = ⟨"xmlns", ρ.rename name.name⟩ := by
      rw [Name.renamedAttribute, if_pos hdeclares, ← hdeclares]
    have hvalue : name.renamedValue ρ value = value := by
      rw [Name.renamedValue, hdeclares, if_neg (by decide)]
    rw [hname, hvalue]
    simp only [hdeclares, if_true, ne_eq, ρ.rename_eq_iff "xml" (by decide), h.declared,
      Scope.uri?_renamed]
    refine .ite (.error trivial) <| .ite (.error trivial) <| .ite (.error trivial) <|
      .ite (.error trivial) <| .ite (.ok h) <| .ok { h with declared := ?_ }
    simp only [Scope.renamed, List.map_append, List.map_cons, List.map_nil]
  · have hname : name.renamedAttribute ρ = name.renamed ρ := if_neg hdeclares
    have hdeclares' : (name.renamed ρ).nsPrefix ≠ "xmlns" := fun heq =>
      hdeclares ((ρ.rename_eq_iff _ (by decide)).1 heq)
    rw [hname, if_neg hdeclares, if_neg hdeclares']
    show Agree _ _ (if name.name = "xmlns" then _ else _) (if name.name = "xmlns" then _ else _)
    by_cases hdefault : name.name = "xmlns"
    · have hvalue : name.renamedValue ρ value = value := by
        rw [Name.renamedValue, hdefault]
        split <;> rfl
      rw [if_pos hdefault, if_pos hdefault, hvalue]
      refine .ite (.error trivial) <| .ite (.error trivial) <| .ok { h with declared := ?_ }
      rw [h.declared]
      simp only [Scope.renamed, List.map_append, List.map_cons, List.map_nil,
        ρ.fixed List.mem_cons_self]
    · rw [if_neg hdefault, if_neg hdefault]
      exact .ok { h with attributes := List.rel_append h.attributes (.cons ⟨rfl, rfl⟩ .nil) }

end Renamed

/-- An attribute is what it was once its namespace is known. -/
theorem attribute_renamed {name : Name} {uri : Option String}
    (h : uri = none ↔ name.nsPrefix = "") (value : String) :
    (⟨uri, (name.renamed ρ).name, name.renamedValue ρ value⟩ : Attribute)
      = Attribute.renamed ρ ⟨uri, name.name, value⟩ := by
  unfold Attribute.renamed Name.renamedValue
  simp only [h]
  split <;> rfl

/-- **The attributes of a tag are the same**, and one comes twice that did. -/
theorem agree_expandAttributes (scope : Scope) (before : List Attribute)
    {l l' : List (Name × String × Position)} (hl : List.Forall₂ (Waiting ρ) l l') :
    Agree (fun _ _ => True) (fun found found' => found' = found.map (Attribute.renamed ρ))
      (expandAttributes scope before l)
      (expandAttributes (scope.renamed ρ) (before.map (Attribute.renamed ρ)) l') := by
  induction hl generalizing before with
  | nil => exact .ok rfl
  | @cons a a' _ _ ha _ ih =>
    obtain ⟨name, value, p⟩ := a
    obtain ⟨name', value', p'⟩ := a'
    obtain ⟨rfl, rfl⟩ : name' = name.renamed ρ ∧ value' = name.renamedValue ρ value := ha
    unfold expandAttributes
    refine (agree_attributeUri scope name p p').bind fun uri uri' huri => ?_
    obtain ⟨rfl, hnone⟩ := huri
    have hsame : (before.map (Attribute.renamed ρ)).any
          (fun a => a.uri = uri' && a.name = (name.renamed ρ).name)
        = before.any fun a => a.uri = uri' && a.name = name.name := by
      rw [List.any_map]
      congr 1
      funext a
      simp only [Function.comp_apply, Attribute.renamed, Name.renamed]
      split <;> rfl
    have hrest := ih (before ++ [⟨uri', name.name, value⟩])
    rw [List.map_append, List.map_cons, List.map_nil, ← attribute_renamed hnone] at hrest
    simp only [hsame]
    split
    · exact .error trivial
    · exact hrest

namespace Renamed

variable {g g' : Growth} (h : g.Renamed ρ g')

include h

theorem waiting :
    Agree (fun _ _ => True)
      (fun found found' => found' = (found.1.renamed ρ, found.2.map (Attribute.renamed ρ)))
      g.waiting g'.waiting := by
  unfold Growth.waiting
  rw [h.scope, h.declared, scopeWithin_renamed]
  refine (agree_expandAttributes (scopeWithin g.declared g.scope) [] h.attributes).bind
    fun attributes attributes' heq => .ok ?_
  rw [heq]

/-- A tag has begun on both sides or on neither. -/
theorem tag_cases : g.tag = none ∧ g'.tag = none ∨
    ∃ name p p', g.tag = some (name, p) ∧ g'.tag = some (name.renamed ρ, p') ∧ p'.row = p.row := by
  have htag := h.tag
  generalize g.tag = tag, g'.tag = tag' at htag
  cases htag with
  | none => exact Or.inl ⟨rfl, rfl⟩
  | @some tag tag' htag =>
    obtain ⟨name, p⟩ := tag
    obtain ⟨name', p'⟩ := tag'
    obtain ⟨rfl, hrow⟩ : name' = name.renamed ρ ∧ p'.row = p.row := htag
    exact Or.inr ⟨name, p, p', rfl, rfl, hrow⟩

/-- No declaration and no attribute waits behind a tag. -/
theorem cleared : Growth.Renamed ρ { g with declared := [], attributes := [] }
    { g' with declared := [], attributes := [] } :=
  { h with declared := rfl, attributes := .nil }

/-- **A start tag ends alike.** -/
theorem endTag (isEmpty : Bool) :
    Agree (fun _ _ => True) (Growth.Renamed ρ) (g.endTag isEmpty) (g'.endTag isEmpty) := by
  unfold Growth.endTag
  rcases h.tag_cases with ⟨htag, htag'⟩ | ⟨name, p, p', htag, htag', hrow⟩
  · rw [htag, htag']
    exact .ok h
  · rw [htag, htag']
    refine h.waiting.bind fun found found' heq => ?_
    subst heq
    obtain ⟨scope, attributes⟩ := found
    refine (agree_uriOf scope name _ _).bind fun uri uri' heq => ?_
    subst heq
    have hstart : (⟨uri, (name.renamed ρ).name, attributes.map (Attribute.renamed ρ),
          scope.renamed ρ, p'.row⟩ : StartTag)
        = StartTag.renamed ρ ⟨uri, name.name, attributes, scope, p.row⟩ := by
      rw [hrow]
      rfl
    have hcleared := h.cleared
    rw [htag, htag'] at hcleared
    cases isEmpty with
    | true =>
      have hadded := hcleared.addElement (.mk ⟨uri, name.name, attributes, scope, p.row⟩ .nil)
      rw [Element.renamed, ← hstart] at hadded
      exact .ok hadded
    | false => exact .ok { hcleared with opened := .cons ⟨rfl, hstart, rfl⟩ h.opened }

/-- **A closing tag matches the same start tag**, or none as before. -/
theorem close (name : Name) (p p' : Position) :
    Agree (fun _ _ => True) (Growth.Renamed ρ) (g.close name p)
      (g'.close (name.renamed ρ) p') := by
  have hopened := h.opened
  unfold Growth.close
  rcases h.tag_cases with ⟨htag, htag'⟩ | ⟨begun, _, _, htag, htag', -⟩
  · rw [htag, htag']
    exact .error trivial
  · rw [htag, htag']
    generalize g.opened = opened, g'.opened = opened' at hopened
    cases hopened with
    | nil => exact .error trivial
    | @cons o o' outer outer' ho houter =>
      refine h.waiting.bind fun _ _ _ => ?_
      simp only [ho.written, Name.renamed_injective.eq_iff]
      split
      · have hrest : Growth.Renamed ρ
            { g with opened := outer, declared := [], attributes := [] }
            { g' with opened := outer', declared := [], attributes := [] } :=
          { h.cleared with opened := houter }
        rw [htag, htag'] at hrest
        rw [ho.close]
        exact .ok (hrest.addElement o.close)
      · exact .error trivial

/-- **A token is taken alike.** -/
theorem take (expand expand' : Growth → Cursor → Position → Except Error Growth)
    {token token' : Token} (htoken : token.isRenamed ρ token' = true) :
    Agree (fun _ _ => True) (Growth.Renamed ρ) (Growth.take expand entityDepth g token)
      (Growth.take expand' entityDepth g' token') := by
  cases token <;> cases token' <;>
    simp only [Token.isRenamed, Bool.false_eq_true, Bool.and_eq_true, decide_eq_true_eq] at htoken
  case tagStart.tagStart name p name' p' =>
    obtain ⟨rfl, hrow⟩ := htoken
    have hreserved : (name.renamed ρ).nsPrefix = "xmlns" ↔ name.nsPrefix = "xmlns" :=
      ρ.rename_eq_iff _ (by decide)
    simp only [Growth.take, hreserved]
    split
    · exact .error trivial
    · exact .ok { h with tag := .some ⟨rfl, hrow⟩ }
  case attribute.attribute name value p name' value' p' =>
    obtain ⟨rfl, hvalue⟩ := htoken
    simp only [Growth.take, valueOf_eq h.entities, valueOf_eq h.entities']
    refine ((Agree.of_toOption hvalue).map (S := fun found found' => found.1 = g ∧ found'.1 = g' ∧
      found'.2 = name.renamedValue ρ found.2) fun _ _ heq => ⟨rfl, rfl, heq⟩).bind
      fun found found' hfound => ?_
    obtain ⟨_, spelled⟩ := found
    obtain ⟨_, _⟩ := found'
    obtain ⟨rfl, rfl, rfl⟩ := hfound
    exact h.takeAttribute name spelled p p'
  case tagEnd.tagEnd isEmpty isEmpty' =>
    subst htoken
    exact h.endTag _
  case close.close name p name' p' =>
    subst htoken
    exact h.close name p p'
  case text.text run run' => exact h.addPieces _ _ _ _ _ htoken
  case cdata.cdata run run' =>
    subst htoken
    exact .ok (h.addSection _ _)

/-- A tree that has come to its end has the same root. -/
theorem root :
    Agree (fun _ _ => True) (fun root root' => root' = root.renamed ρ) g.root g'.root := by
  have hopened := h.opened
  unfold Growth.root
  rw [h.roots, List.getLast?_map]
  generalize g.opened = opened, g'.opened = opened' at hopened
  cases hopened with
  | cons => exact .error trivial
  | nil =>
    cases g.roots.getLast? with
    | none => exact .error trivial
    | some root => exact .ok rfl

end Renamed

end Growth

end Xml

variable {ρ} in
/-- **A text with its prefixes renamed is the same document with its prefixes renamed**, or no
document if it was none. -/
theorem renamedText_of_tokens {doctypes : Bool} {text text' : String}
    (h : (Xml.Token.ofDocument doctypes text.toList).Renamed ρ
      (Xml.Token.ofDocument doctypes text'.toList)) :
    RenamedText ρ doctypes text text' := by
  have hgrown : Agree (fun _ _ => True) (Xml.Growth.Renamed ρ)
      ((Xml.Token.ofDocument doctypes text.toList).tokens.foldlM
        (Xml.Growth.take (Xml.Growth.expandText Xml.entityDepth) Xml.entityDepth) {})
      ((Xml.Token.ofDocument doctypes text'.toList).tokens.foldlM
        (Xml.Growth.take (Xml.Growth.expandText Xml.entityDepth) Xml.entityDepth) {}) :=
    Agree.foldlM h.tokens (fun _ _ _ _ hg htoken => hg.take _ _ htoken) Xml.Growth.renamed_empty
  have hfailure := h.failure
  unfold RenamedText Xml.Element.parse Xml.Growth.takeAll
  rw [Text.chars_eq_toList, Text.chars_eq_toList]
  refine (hgrown.bind (S := Xml.Growth.Renamed ρ) fun g g' hg => ?_).bind fun g g' hg => hg.root
  generalize (Xml.Token.ofDocument doctypes text.toList).failure = failure,
    (Xml.Token.ofDocument doctypes text'.toList).failure = failure' at hfailure
  cases failure <;> cases failure' <;> cases hfailure
  · exact .ok hg
  · exact .error trivial

end WsdlTypes
