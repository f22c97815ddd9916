import GrammarCheck.Source.Fault
import GrammarCheck.Source.Reader

/-! Rule files as definitions. Attributes are applied in order, the first fault in the file is reported, and an
attribute that may be given again replaces what was given before. -/

namespace GrammarCheck

namespace Source

abbrev Checked := Except SourceError

variable {α : Type}

def reject (location : Location) (fault : Fault) : Checked α := .error (.invalid location fault)

def countValue (location : Location) (op : Operator) (value : String) : Checked Nat :=
  if op ≠ .equal then reject location (.operatorNotEqual op)
  else match Text.count? value with
    | some n => .ok n
    | none => reject location (.notNumber value)

/-- A bound; a star is one with any operator. -/
def boundValue (location : Location) (op : Operator) (value : String) : Checked Bound :=
  if value = "*" then .ok .unbounded else Bound.upTo <$> countValue location op value

def spaceValue (location : Location) (value : String) : Checked Bool :=
  if value = "yes" ∨ value = "true" then .ok true
  else if value = "no" ∨ value = "false" then .ok false
  else reject location (.notSpaceValue value)

/-- The condition after a setting, or nothing if the setting is not one of conditions. -/
def applySetting (c : ConditionDef) (key : Key) (op : Operator) (value : String) (location : Location) :
    Checked (Option ConditionDef) :=
  let setText (inflected : Bool) : Checked (Option ConditionDef) :=
    if c.text.isSome then reject location .secondText
    else .ok (some { c with text := some (op.value value), inflected, negate := c.negate || op.isNegated })
  match key with
  | .text => setText false
  | .base => setText true
  | .tag => .ok (some { c with tag := some (op.value value), negateTag := op.isNegated })
  | .ref => do
    let position ← countValue location op value
    pure (some { c with reference := some position })
  | .space => do
    let space ← spaceValue location value
    pure (some { c with spaceBefore := some space })
  | .min => .ok none
  | .max => .ok none
  | .skip => .ok none

/-- The condition after an attribute, or nothing if the attribute is not one of conditions. -/
def applyAttribute (c : ConditionDef) : Attribute → Checked (Option ConditionDef)
  | .exception _ _ _ => .ok none
  | .setting key op value location => applySetting c key op value location
  | .negation _ => .ok (some { c with negate := true })
  | .caseFlag _ => .ok (some { c with caseSensitive := true })
  | .bareText text _ => .ok (some { c with text := some (.literal text), inflected := false })

/-- The condition that attributes make; any other attribute is at fault. -/
def conditionOf (fault : Fault) : ConditionDef → List Attribute → Checked ConditionDef
  | c, [] => .ok c
  | c, a :: rest => do
    match ← applyAttribute c a with
    | some c => conditionOf fault c rest
    | none => reject a.location fault

def exceptionOf (scope : Scope) (conditions : List Attribute) : Checked ExceptionDef := do
  let condition ← conditionOf .notConditionInException {} conditions
  pure ⟨condition, scope⟩

def applyToToken (t : TokenDef) : Attribute → Checked TokenDef
  | .exception scope conditions _ => do
    let e ← exceptionOf scope conditions
    pure { t with exceptions := t.exceptions ++ [e] }
  | .setting .min op value location => do
    let n ← countValue location op value
    pure { t with min := n }
  | .setting .max op value location => do
    let b ← boundValue location op value
    pure { t with max := b }
  | .setting .skip op value location => do
    let b ← boundValue location op value
    pure { t with skip := b }
  | a => do
    let c ← applyAttribute t.condition a
    pure { t with condition := c.getD t.condition }

def TokenForm.define (form : TokenForm) : Checked TokenDef :=
  form.attributes.foldlM applyToToken { location := form.location }

mutual

def ItemForm.define : ItemForm → Checked PatternItem
  | .tokens first others => do
    let first ← first.define
    let others ← others.mapM TokenForm.define
    pure (.tokens ⟨first, others⟩)
  | .phrase name location => .ok (.phrase name location)
  | .marker items location => do
    let items ← defineItems items
    pure (.marker items location)
  | .unify negate features items location => do
    let items ← defineItems items
    pure (.unify features negate items location)

def defineItems : List ItemForm → Checked (List PatternItem)
  | [] => .ok []
  | item :: rest => do
    let item ← item.define
    let rest ← defineItems rest
    pure (item :: rest)

end

def PatternForm.define (form : PatternForm) : Checked PatternDef := do
  let items ← defineItems form.items
  pure ⟨form.caseSensitive, items⟩

def ExampleForm.value? (form : ExampleForm) (key : ExampleKey) : Option String := form.attributes.lookup key

def ExampleForm.define (form : ExampleForm) : Checked ExampleDef :=
  match form.kind with
  | .incorrect => .ok (.incorrect form.text (form.value? .correction))
  | .correct => .ok (.correct form.text)
  | kind => reject form.location (.exampleOfDisambiguation kind)

def ExampleForm.defineDisambiguation (form : ExampleForm) : Checked DisambiguationExample :=
  let readings (key : ExampleKey) : List Reading := ((form.value? key).map Reading.readList).getD []
  match form.kind with
  | .untouched => .ok (.untouched form.text)
  | .ambiguous => .ok (.ambiguous form.text (readings .input) (readings .output))
  | kind => reject form.location (.exampleOfGrammar kind)

/-- What the entries of a rule have said so far. -/
structure RuleDraft where
  pattern : Option PatternDef := none
  message : String := ""
  shortMessage : Option String := none
  suggestions : List String := []
  allowOverlap : Bool := false
  examples : List ExampleDef := []
  deriving Inhabited

def RuleDraft.add (draft : RuleDraft) : RuleEntry → Checked RuleDraft
  | .pattern form => do
    let pattern ← form.define
    pure { draft with pattern := some pattern }
  | .message text => .ok { draft with message := text }
  | .short text => .ok { draft with shortMessage := some text }
  | .suggestion text => .ok { draft with suggestions := draft.suggestions ++ [text] }
  | .overlap => .ok { draft with allowOverlap := true }
  | .sample form => do
    let e ← form.define
    pure { draft with examples := draft.examples ++ [e] }

/-- A group gives its rules an id, a description and a running number. -/
structure GroupHead where
  id : String
  description : Option String
  deriving DecidableEq, Inhabited

/-- The id of a rule, unless it has one of its own in a group. -/
def RuleForm.id? (form : RuleForm) (group : Option GroupHead) : Checked (Option String) :=
  match group, form.id with
  | none, none => .ok none
  | none, some (id, _) => .ok (some id)
  | some head, none => .ok (some head.id)
  | some _, some (_, location) => reject location .idInGroup

def RuleForm.define (form : RuleForm) (group : Option GroupHead) (number : Nat) : Checked RuleDef := do
  let id ← form.id? group
  let draft ← form.entries.foldlM RuleDraft.add {}
  match id with
  | none => reject form.location .missingId
  | some id =>
    match draft.pattern with
    | none => reject form.location (.missingPattern id)
    | some pattern =>
      pure {
        id, pattern
        subId := toString number
        description := (form.description.or (group.bind (·.description))).getD ""
        message := draft.message
        shortMessage := draft.shortMessage
        suggestions := draft.suggestions
        allowOverlap := draft.allowOverlap
        examples := draft.examples
        location := form.location }

def defineGroup (head : GroupHead) : Nat → List RuleForm → Checked (List RuleDef)
  | _, [] => .ok []
  | number, form :: rest => do
    let r ← form.define (some head) number
    let rs ← defineGroup head (number + 1) rest
    pure (r :: rs)

def addToAction (a : ActionDef) (setting : ActionAttribute) : Checked ActionDef :=
  match setting.key, setting.op with
  | .tag, .like => .ok { a with tag := some (.regex setting.value) }
  | .tag, .equal => .ok { a with tag := some (.literal setting.value) }
  | .base, .equal => .ok { a with base := some setting.value }
  | .replacement, .equal => .ok { a with tagReplacement := some setting.value }
  | key, op => reject setting.location (.actionAttribute key op)

def ActionForm.define (form : ActionForm) : Checked ActionDef :=
  form.attributes.foldlM addToAction ⟨form.kind, none, none, none, form.location⟩

def readingOf (attributes : List (ReadingKey × String)) : Reading :=
  attributes.foldl (fun r (key, text) =>
    match key with
    | .base => { r with base := some text }
    | .tag => { r with tag := some text }) .untagged

/-- What the entries of a disambiguation rule have said so far. -/
structure DisambiguationDraft where
  pattern : Option PatternDef := none
  action : Option ActionDef := none
  readings : List Reading := []
  examples : List DisambiguationExample := []
  deriving Inhabited

def DisambiguationDraft.add (id : String) (draft : DisambiguationDraft) :
    DisambiguationEntry → Checked DisambiguationDraft
  | .pattern form => do
    let pattern ← form.define
    pure { draft with pattern := some pattern }
  | .action form => do
    if draft.action.isSome then reject form.location (.secondAction id)
    let action ← form.define
    pure { draft with action := some action }
  | .reading attributes => .ok { draft with readings := draft.readings ++ [readingOf attributes] }
  | .sample form => do
    let e ← form.defineDisambiguation
    pure { draft with examples := draft.examples ++ [e] }

def DisambiguationForm.define (form : DisambiguationForm) : Checked DisambiguationDef := do
  let draft ← form.entries.foldlM (DisambiguationDraft.add form.id) {}
  match draft.pattern, draft.action with
  | none, _ => reject form.location (.missingPattern form.id)
  | some _, none => reject form.location (.missingAction form.id)
  | some pattern, some action =>
    pure {
      id := form.id, pattern, action
      description := form.description.getD ""
      readings := draft.readings
      examples := draft.examples
      location := form.location }

def FeatureForm.define (form : FeatureForm) : Checked FeatureDef := do
  let types ← form.types.mapM fun (name, attributes) => do
    let c ← conditionOf .notConditionInType {} attributes
    pure (name, c)
  pure ⟨form.name, types, form.location⟩

def PhraseForm.define (form : PhraseForm) : Checked PhraseDef := do
  let alternatives ← form.alternatives.mapM defineItems
  pure ⟨form.name, alternatives, form.location⟩

def addForm (file : RuleFile) : Form → Checked RuleFile
  | .feature form => do
    let f ← form.define
    pure { file with features := file.features ++ [f] }
  | .phrase form => do
    let p ← form.define
    pure { file with phrases := file.phrases ++ [p] }
  | .group id description rules => do
    let rs ← defineGroup ⟨id, description⟩ 1 rules
    pure { file with rules := file.rules ++ rs }
  | .rule form => do
    let r ← form.define none 1
    pure { file with rules := file.rules ++ [r] }
  | .disambiguation form => do
    let d ← form.define
    pure { file with disambiguations := file.disambiguations ++ [d] }

end Source

def RuleFile.ofForms (forms : List Source.Form) : Except Source.SourceError RuleFile :=
  forms.foldlM Source.addForm {}

def RuleFile.read (source : String) : Except Source.SourceError RuleFile :=
  match Source.readForms source with
  | none => .error .malformed
  | some forms => RuleFile.ofForms forms

end GrammarCheck
