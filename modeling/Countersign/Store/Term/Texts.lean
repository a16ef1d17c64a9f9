/-
Module: Countersign.Store.Term.Texts
Purpose: Operations on texts in terms.
Main exports: Term.textOperations
-/
import Countersign.Store.Term.Arithmetic
import Countersign.Text.Split

namespace Countersign.Term

/-- The text that a term stands for; any value has one. -/
def shown (node : Node) (scope : Scope) : Except FilterFault String :=
  Value.display <$> node.meaning scope

/-- A text of small or capital letters, empty for null. -/
def recased (change : String → String) (node : Node) : Meaning := fun scope => do
  match ← node.meaning scope with
  | .null => return .text ""
  | v => return .text (change v.display)

def concatenated (node : Node) : Meaning := fun scope => do
  let values ← (← node.parts).mapM (·.valueOrNull scope)
  if values.any (Value.null.same ·) then return .null
  else return .text (String.join (values.map Value.display))

def splitText (node : Node) : Meaning := fun scope => do
  match ← node.parts with
  | [text, separator] =>
      match ← text.valueOrNull scope with
      | .null => return .null
      | text =>
          match text, ← separator.valueOrNull scope with
          | _, .null => return .null
          | .text s, .text separator =>
              if separator.isEmpty then throw .emptySeparator
              else return .ofTexts (Text.splitBy separator s)
          | _, _ => throw .notUsable
  | _ => throw (.term (.notSoMany "split" 2))

def partOfText (node : Node) : Meaning := fun scope => do
  match ← node.parts with
  | [text, first, length] =>
      let s ← shown text scope
      match intOf? (← first.meaning scope), intOf? (← length.meaning scope) with
      | some first, some length =>
          if first < 0 then return .text ""
          else
            let codes := (Text.codes s).drop first.toNat
            return .text (Text.ofCodes (if length < 0 then codes else codes.take length.toNat))
      | _, _ => throw .notUsable
  | _ => throw (.term (.notSoMany "substr" 3))

def comparedTexts (node : Node) : Meaning := fun scope => do
  match ← node.parts with
  | [left, right] =>
      let left ← shown left scope
      match Text.order left (← shown right scope) with
      | .lt => return .int (-1)
      | .eq => return .int 0
      | .gt => return .int 1
  | _ => throw (.term (.notSoMany "strcasecmp" 2))

/-- The letters of the options of a pattern. -/
def patternLetters (node : Node) : Except FilterFault (List Char) :=
  match (node.field? "options").map Node.operand with
  | none => .ok []
  | some v => do
      (← membersOf v).mapM fun letter =>
        match letter.text?.map String.toList with
        | some [c] =>
            if ['i', 'm', 'x', 's'].contains c then .ok c
            else .error (.term (.patternOption (String.singleton c)))
        | _ => .error (.term (.patternOption letter.display))

def patternFound (node : Node) : Meaning := fun scope => do
  match node.operand with
  | .record fields =>
      match node.field? "input", node.field? "regex" with
      | none, _ => throw (.term (.patternPart "input"))
      | _, none => throw (.term (.patternPart "regex"))
      | some input, some regex =>
          match fields.find? fun (name, _) => !(["input", "regex", "options"].contains name) with
          | some (name, _) => throw (.term (.patternArgument name))
          | none =>
              match ← input.value? scope with
              | none => return .bool false
              | some (.text s) =>
                  match ← regex.value? scope with
                  | none => return .bool false
                  | some regex =>
                      let letters ← patternLetters node
                      match regex with
                      | .text pattern =>
                          match Text.Pattern.read (.ofLetters letters) pattern with
                          | .ok pattern => return .bool (pattern.isFoundIn s)
                          | .error fault => throw (.notPattern fault)
                      | _ => throw (.term .patternNotText)
              | some _ => throw (.term .inputNotText)
  | v => throw (.term (.patternNotRecord v))

def textOperations : List (String × (Node → Meaning)) :=
  [("$toLower", recased Text.lower), ("$toUpper", recased Text.upper), ("$concat", concatenated),
    ("$split", splitText), ("$substr", partOfText), ("$strcasecmp", comparedTexts),
    ("$regexMatch", patternFound)]

end Countersign.Term
