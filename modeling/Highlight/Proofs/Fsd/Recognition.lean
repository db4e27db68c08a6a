import Highlight.Proofs.Fsd.Remarks
import Highlight.Proofs.Fsd.TokenReading

/-! # Well-formed documents are recognized

Along the syntax of a service every attribute, type, field and member leads back to the stack from
which it starts. So a run over a document finds a rule everywhere and ends with the root, or with
the state for Markdown above it if the document has remarks.
-/

namespace Highlight.Fsd

open Text Grammar

variable {stack final : StateStack}

def annotated : List StateId := [At.root, At.service, At.member]

theorem leads_value (v : Value) (hTop : stack.top = At.attrValue) (hReady : Ready stack) :
    Leads stack v.tokens stack := by
  cases v with
  | word w => exact .stay hTop hReady (reads_attributeWord w (by decide)) (.nil stack)
  | quoted items => exact .stay hTop hReady (reads_quoted items) (.nil stack)

theorem leads_parameter (p : Parameter) (hTop : stack.top = At.attrName) (hReady : Ready stack)
    (hDepth : stack.depth ≤ 4) : Leads stack p.tokens (stack.push At.attrValue) := by
  have hReady' : Ready (stack.push At.attrValue) := hReady.push hDepth (by decide)
  refine .stay hTop hReady (reads_attributeWord p.name (by decide)) ?_
  exact .push hTop hReady (by decide) (leads_value p.value rfl hReady')

theorem leads_parameters (ps : List Parameter) (hTop : stack.top = At.attrName) (hReady : Ready stack)
    (hDepth : stack.depth ≤ 4) : Leads stack (Attribute.parameterTokens ps) stack := by
  have hReady' : Ready (stack.push At.attrValue) := hReady.push hDepth (by decide)
  cases ps with
  | nil => exact .nil stack
  | cons p ps =>
    have hList : Leads stack (commaSeparated ((p :: ps).map Parameter.tokens))
        (stack.push At.attrValue) :=
      .commaSeparated (fun p => leads_parameter p hTop hReady hDepth)
        (fun h => .pop hReady' (by decide) h) p ps
    have hClose : Leads (stack.push At.attrValue) [.mark .closeRound] stack :=
      .pop hReady' (by decide) (.nil stack)
    exact .stay hTop hReady (reads_mark (by decide)) (hList.append hClose)

theorem leads_attribute (a : Attribute) (hTop : stack.top ∈ annotated) (hReady : Ready stack)
    (hDepth : stack.depth ≤ 3) : Leads stack a.tokens stack := by
  have hOpen : ∀ s ∈ annotated, markEffect? s .openSquare = some (.push At.attrName) := by decide
  have hTop' : (stack.push At.attrName).top = At.attrName := rfl
  have hReady' : Ready (stack.push At.attrName) := hReady.push (by omega) (by decide)
  have hParameters := leads_parameters a.parameters hTop' hReady' (Nat.succ_le_succ hDepth)
  have hClose : Leads (stack.push At.attrName) [.mark .closeSquare] stack :=
    .pop hReady' (by decide) (.nil stack)
  refine .push rfl hReady (hOpen _ hTop) ?_
  exact .stay hTop' hReady' (reads_attributeWord a.name (by decide)) (hParameters.append hClose)

theorem leads_attributes (as : List Attribute) (hTop : stack.top ∈ annotated) (hReady : Ready stack)
    (hDepth : stack.depth ≤ 3) : Leads stack (as.flatMap Attribute.tokens) stack :=
  .flatMap (fun a => leads_attribute a hTop hReady hDepth) as

theorem leads_type (t : TypeExpr) (hTop : stack.top = At.typeName) (hReady : Ready stack) :
    Leads stack t.tokens stack := by
  induction t with
  | name i => exact .stay hTop hReady (reads_name i (by decide)) (.nil stack)
  | generic i argument ih =>
    have hClose : Leads stack [.mark .closeAngle] stack :=
      .stay hTop hReady (reads_mark (by decide)) (.nil stack)
    refine .stay hTop hReady (reads_name i (by decide)) ?_
    exact .stay hTop hReady (reads_mark (by decide)) (ih.append hClose)
  | array element ih =>
    refine ih.append (.stay hTop hReady (reads_mark (by decide)) ?_)
    exact .stay hTop hReady (reads_mark (by decide)) (.nil stack)

def inService : StateStack := atRoot.push At.service

def inMember : StateStack := inService.push At.member

theorem ready_atRoot : Ready atRoot := ⟨by decide, by decide, by decide⟩

theorem ready_inService : Ready inService := ready_atRoot.push (by decide) (by decide)

theorem ready_inMember : Ready inMember := ready_inService.push (by decide) (by decide)

theorem leads_field (f : Field) : Leads inMember f.tokens inMember := by
  have hTop : (inMember.push At.typeName).top = At.typeName := rfl
  have hReady : Ready (inMember.push At.typeName) := ready_inMember.push (by decide) (by decide)
  have hClose : Leads (inMember.push At.typeName) [.mark .semicolon] inMember :=
    .pop hReady (by decide) (.nil inMember)
  have hType := (leads_type f.type hTop hReady).append hClose
  have hName : Leads inMember (.name f.name :: .mark .colon :: f.type.tokens ++ [.mark .semicolon])
      inMember :=
    .stay rfl ready_inMember (reads_name f.name (by decide))
      (.push rfl ready_inMember (by decide) hType)
  rw [Field.tokens, List.append_assoc]
  exact (leads_attributes f.attributes (by decide) ready_inMember (by decide)).append hName

theorem leads_enumValue (v : EnumValue) : Leads inMember v.tokens inMember :=
  (leads_attributes v.attributes (by decide) ready_inMember (by decide)).append
    (.stay rfl ready_inMember (reads_name v.name (by decide)) (.nil inMember))

theorem leads_comma {ts : List Token} (h : Leads inMember ts inMember) :
    Leads inMember (.mark .comma :: ts) inMember :=
  .stay rfl ready_inMember (reads_mark (by decide)) h

theorem leads_enumValues (vs : EnumValues) : Leads inMember vs.tokens inMember := by
  have hList : Leads inMember (commaSeparated (vs.values.map EnumValue.tokens)) inMember := by
    cases vs.values with
    | nil => exact .nil inMember
    | cons v values => exact .commaSeparated leads_enumValue leads_comma v values
  refine hList.append ?_
  cases vs.finalComma with
  | false => exact .nil inMember
  | true => exact leads_comma (.nil inMember)

theorem leads_memberBraces {ts : List Token} (h : Leads inMember ts inMember) :
    Leads inService (inBraces ts) inService := by
  have hClose : Leads inMember [.mark .closeCurly] inService :=
    .pop ready_inMember (by decide) (.nil inService)
  exact .push rfl ready_inService (by decide) (h.append hClose)

theorem leads_memberBody (b : MemberBody) : Leads inService b.tokens inService := by
  cases b with
  | data fields => exact leads_memberBraces (.flatMap leads_field fields)
  | method request response =>
    refine (leads_memberBraces (.flatMap leads_field request)).append ?_
    refine .stay rfl ready_inService (reads_mark (by decide)) ?_
    exact leads_memberBraces (.flatMap leads_field response)
  | enum values => exact leads_memberBraces (leads_enumValues values)
  | errors values => exact leads_memberBraces (leads_enumValues values)

theorem leads_member (m : Member) : Leads inService m.tokens inService := by
  refine (leads_attributes m.attributes (by decide) ready_inService (by decide)).append ?_
  refine .stay rfl ready_inService (reads_name m.body.keyword (by decide)) ?_
  exact .stay rfl ready_inService (reads_name m.name (by decide)) (leads_memberBody m.body)

theorem leads_service (s : Service) : Leads atRoot s.tokens atRoot := by
  have hClose : Leads inService [.mark .closeCurly] atRoot :=
    .pop ready_inService (by decide) (.nil atRoot)
  have hMembers := (Leads.flatMap leads_member s.members).append hClose
  refine (leads_attributes s.attributes (by decide) ready_atRoot (by decide)).append ?_
  refine .stay rfl ready_atRoot (reads_name Service.keyword (by decide)) ?_
  refine .stay rfl ready_atRoot (reads_name s.name (by decide)) ?_
  exact .push rfl ready_atRoot (by decide) hMembers

theorem LaidOut.ne_nil {ts : List Token} {body : List Char} (h : LaidOut ts body) : body ≠ [] := by
  have hToken : ∀ t : Token, t.text ≠ [] := by
    intro t
    cases t with
    | name i => exact List.cons_ne_nil _ _
    | attributeWord w => exact w.ne_nil
    | quoted items => exact List.cons_ne_nil _ _
    | mark m => exact List.cons_ne_nil _ _
  cases h with
  | last t => exact hToken t
  | more t =>
    rw [List.append_assoc]
    exact List.append_ne_nil_of_left_ne_nil (hToken t) _

namespace Document

def finalStack (d : Document) : StateStack :=
  if d.remarks.isSome then inRemarks else atRoot

theorem map_ids_finalStack (d : Document) :
    d.finalStack.ids.map grammar.stateName? = d.finalStates.map some := by
  rw [finalStack, finalStates, List.map_congr_left fun id _ => grammar.stateName?_eq id,
    grammar_table.2.2.1]
  split
  · rfl
  · rfl

theorem cleanOn_remarksText (d : Document) :
    grammar.CleanOn atRoot (remarksText d.remarks) d.finalStack := by
  rw [finalStack]
  cases d.remarks with
  | none => exact .nil grammar atRoot
  | some r => exact cleanOn_remarks r

theorem stops_behind (d : Document) : Stops (d.after.text ++ remarksText d.remarks) := by
  by_cases hAfter : d.after = []
  · rw [hAfter]
    cases d.remarks with
    | none => exact fun _ hx => absurd hx (Option.not_mem_none _)
    | some r => exact r.lineBreak.stops _
  · exact stops_of_layout hAfter _

/-- However a well-formed document is laid out, a rule matches at every step, and the last line ends
with the expected states. -/
theorem recognized (d : Document) :
    (grammar.run d.text).counters.fallbacks = 0 ∧
      ∃ t, (grammar.run d.text).lines.getLast? = some t ∧
        t.stack.ids.map grammar.stateName? = d.finalStates.map some := by
  have hTop : atRoot.top ∈ spaced := ready_atRoot.top_mem
  have hAfter := cleanOn_layout d.after hTop enter_atRoot d.cleanOn_remarksText
  have hBody := cleanOn_laidOut d.laidOut (leads_service d.service) d.stops_behind hAfter
  have hText := cleanOn_layout d.before hTop enter_atRoot hBody
  have hNe : d.before.text ++ (d.body ++ (d.after.text ++ remarksText d.remarks)) ≠ [] := by
    simp [d.laidOut.ne_nil]
  rw [← initial_eq] at hText
  obtain ⟨hFallbacks, hLast⟩ := hText.run hNe (initial_eq ▸ enter_atRoot)
  obtain ⟨t, hLine, hStack⟩ := Option.map_eq_some_iff.mp hLast
  rw [← List.append_assoc, ← List.append_assoc] at hFallbacks hLine
  refine ⟨hFallbacks, t, hLine, ?_⟩
  rw [hStack, d.map_ids_finalStack]

def small : Document where
  service := {
    attributes := [⟨{ chars := ['x'] }, [⟨{ chars := ['y'] }, .quoted [.escaped '"', .plain '/']⟩]⟩]
    name := { first := 'A', others := [] }
    members := [] }
  before := [.comment ['a'] .returnAndFeed]
  body := _
  laidOut := .more _ [] nofun <| .more _ [] nofun <| .more _ [] nofun <|
    .more _ [.lineBreak .lineFeed] nofun <| .more _ [] nofun <| .more _ [.space] nofun <|
    .more _ [] nofun <| .more _ [] nofun <| .more _ [.tab] nofun <| .more _ [] nofun <|
    .more _ [] nofun <| .last _
  after := []
  remarks := some ⟨.returnAndFeed, ['*', '\n', '#']⟩

theorem small_recognized :
    small.text = "//a\r\n[x(y\n:\"\\\"/\" )]service\tA\x7b\x7d\r\n#*\n#" ∧
      (grammar.run small.text).counters.fallbacks = 0 ∧
      ∃ t, (grammar.run small.text).lines.getLast? = some t ∧
        t.stack.ids.map grammar.stateName? = ["root", "markdown"].map some :=
  ⟨by decide, small.recognized⟩

end Document

end Highlight.Fsd
