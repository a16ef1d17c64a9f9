/-
Module: Countersign.Proofs.Ledger.RuleNames
Purpose: When the names of rules that were joined to one text can be told apart again.
Main exports: Text.Clear, Text.Pieces, Text.splitCodes_eq_iff, Text.Holds, Text.EndsIn,
  Approval.splitNames_joined_iff, Approval.of_openRequest_ask, Approval.recovers_names_iff
-/
import Countersign.Proofs.Catalog.Ordering
import Countersign.Proofs.Ledger.Proposals

namespace Countersign

/-!
A row is cut at the leftmost place where the separator stands, and then what follows is cut. So a row was joined of the
pieces that it is cut into, and they are the only ones with two properties: in each piece and the separator behind it
the separator stands at the end alone, and the last piece has none. The end of a piece and the separator behind it can
make up the separator between them, so it is not enough that no piece has it.
-/

namespace Text

variable {separator part front back row : List Nat} {fuel : Nat} {pieces others : List (List Nat)}

/-! ### Rows that are cut -/

/-- In a row and the separator behind it the separator stands at the end alone. -/
def Clear (separator row : List Nat) : Prop :=
  ∀ tail, tail <:+ row → tail ≠ [] → ¬ separator <+: tail ++ separator

/-- The pieces of a row that is cut wherever the separator stands. -/
def Pieces (separator : List Nat) : List (List Nat) → Prop
  | [] => False
  | [last] => ¬ separator <:+: last
  | piece :: rest => Clear separator piece ∧ Pieces separator rest

theorem clear_nil : Clear separator [] := fun _ ends some => absurd (List.suffix_nil.1 ends) some

/-- A row that grows at its front stays clear unless the separator stands there then. -/
theorem clear_cons_iff {code : Nat} :
    Clear separator (code :: front) ↔ ¬ separator <+: code :: front ++ separator ∧ Clear separator front := by
  constructor
  · intro clear
    exact ⟨clear _ List.suffix_rfl (by simp), fun tail ends => clear tail (ends.trans (List.suffix_cons code front))⟩
  · rintro ⟨unlike, clear⟩ tail ends some
    rcases List.suffix_cons_iff.1 ends with rfl | behind
    · exact unlike
    · exact clear tail behind some

theorem pieces_cons (some : others ≠ []) :
    Pieces separator (front :: others) ↔ Clear separator front ∧ Pieces separator others := by
  cases others with
  | nil => exact absurd rfl some
  | cons piece rest => rfl

theorem Pieces.ne_nil (cut : Pieces separator pieces) : pieces ≠ [] := by
  rintro rfl
  exact cut

/-- What stands in front of the leftmost separator is one piece. -/
theorem splitCodes_clear (some : separator ≠ []) (clear : Clear separator front) (long : front.length < fuel) :
    splitCodes separator part fuel (front ++ separator ++ back) =
      (part.reverse ++ front) :: splitCodes separator [] (fuel - front.length - 1) back := by
  induction front generalizing part fuel with
  | nil =>
      obtain ⟨code, rest, rfl⟩ := List.exists_cons_of_ne_nil some
      obtain ⟨fuel, rfl⟩ := Nat.exists_eq_add_of_lt long
      have stands : (code :: rest).isPrefixOf (code :: (rest ++ back)) = true :=
        List.isPrefixOf_iff_prefix.2 (List.prefix_append (code :: rest) back)
      simp only [List.nil_append, List.cons_append, List.length_nil, Nat.zero_add, splitCodes, stands, if_true,
        List.append_nil, List.length_cons, List.drop_succ_cons, List.drop_left, Nat.sub_zero, Nat.add_sub_cancel]
  | cons code front ih =>
      obtain ⟨unlike, clear⟩ := clear_cons_iff.1 clear
      obtain ⟨fuel, rfl⟩ : ∃ less, fuel = less + 1 := ⟨fuel - 1, by omega⟩
      have absent : ¬ separator.isPrefixOf (code :: (front ++ separator ++ back)) = true := by
        rw [List.isPrefixOf_iff_prefix]
        intro stands
        have inFront : code :: front ++ separator <+: code :: (front ++ separator ++ back) := ⟨back, by simp⟩
        have fits : separator.length ≤ (code :: front ++ separator).length := by
          rw [List.length_append]
          omega
        exact unlike (List.prefix_of_prefix_length_le stands inFront fits)
      rw [List.cons_append, List.cons_append, splitCodes, if_neg absent,
        ih clear (by simpa using long), List.reverse_cons, List.append_assoc]
      simp

/-- A row without the separator is one piece. -/
theorem splitCodes_without (without : ¬ separator <:+: row) :
    splitCodes separator part fuel row = [part.reverse ++ row] := by
  induction fuel generalizing part row with
  | zero => rfl
  | succ fuel ih =>
      cases row with
      | nil => simp [splitCodes]
      | cons code rest =>
          rw [List.infix_cons_iff, not_or, ← List.isPrefixOf_iff_prefix] at without
          rw [splitCodes, if_neg without.1, ih without.2]
          simp

/-- Where the separator stands in a row, it stands leftmost somewhere. -/
theorem exists_clear (within : separator <:+: row) :
    ∃ front back, row = front ++ separator ++ back ∧ Clear separator front := by
  induction row with
  | nil =>
      obtain rfl := List.infix_nil.1 within
      exact ⟨[], [], rfl, clear_nil⟩
  | cons code rest ih =>
      by_cases first : separator <+: code :: rest
      · obtain ⟨back, joined⟩ := first
        exact ⟨[], back, joined.symm, clear_nil⟩
      · obtain ⟨front, back, rfl, clear⟩ := ih ((List.infix_cons_iff.1 within).resolve_left first)
        refine ⟨code :: front, back, rfl, clear_cons_iff.2 ⟨fun stands => first ?_, clear⟩⟩
        exact stands.trans (List.prefix_append _ back)

/-- Every row can be cut. -/
theorem exists_pieces (some : separator ≠ []) (row : List Nat) :
    ∃ pieces, Pieces separator pieces ∧ separator.intercalate pieces = row := by
  induction size : row.length using Nat.strongRecOn generalizing row with
  | _ size shorter =>
      subst size
      by_cases within : separator <:+: row
      · obtain ⟨front, back, rfl, clear⟩ := exists_clear within
        have fewer : back.length < (front ++ separator ++ back).length := by
          have long := List.length_pos_of_ne_nil some
          simp only [List.length_append]
          omega
        obtain ⟨pieces, cut, rfl⟩ := shorter back.length fewer back rfl
        exact ⟨front :: pieces, (pieces_cons cut.ne_nil).2 ⟨clear, cut⟩,
          List.intercalate_cons_of_ne_nil cut.ne_nil⟩
      · exact ⟨[row], within, List.intercalate_singleton⟩

/-- What was joined of its pieces is cut into them again. -/
theorem splitCodes_pieces (some : separator ≠ []) (cut : Pieces separator pieces)
    (long : (separator.intercalate pieces).length < fuel) :
    splitCodes separator [] fuel (separator.intercalate pieces) = pieces := by
  induction pieces generalizing fuel with
  | nil => exact cut.elim
  | cons piece rest ih =>
      by_cases last : rest = []
      · subst last
        rw [List.intercalate_singleton, splitCodes_without cut]
        rfl
      · obtain ⟨clear, cut⟩ := (pieces_cons last).1 cut
        rw [List.intercalate_cons_of_ne_nil last] at long ⊢
        simp only [List.length_append] at long
        have sized := List.length_pos_of_ne_nil some
        rw [splitCodes_clear some clear (by omega), ih cut (by omega)]
        rfl

/-- A row is cut into the pieces that it was joined of, and into no others. -/
theorem splitCodes_eq_iff (some : separator ≠ []) (long : row.length < fuel) :
    splitCodes separator [] fuel row = pieces ↔ Pieces separator pieces ∧ separator.intercalate pieces = row := by
  constructor
  · rintro rfl
    obtain ⟨pieces, cut, rfl⟩ := exists_pieces some row
    rw [splitCodes_pieces some cut long]
    exact ⟨cut, rfl⟩
  · rintro ⟨cut, rfl⟩
    exact splitCodes_pieces some cut long

theorem mem_intercalate {code : Nat} (member : front ∈ pieces) (within : code ∈ front) :
    code ∈ separator.intercalate pieces := by
  induction pieces with
  | nil => cases member
  | cons piece rest ih =>
      by_cases last : rest = []
      · subst last
        obtain rfl := List.mem_singleton.1 member
        rwa [List.intercalate_singleton]
      · rw [List.intercalate_cons_of_ne_nil last, List.mem_append]
        rcases List.mem_cons.1 member with rfl | behind
        · exact Or.inl (List.mem_append_left _ within)
        · exact Or.inr (ih behind)

/-! ### Pieces that are empty -/

theorem length_intercalate (separator : List Nat) (some : pieces ≠ []) :
    (separator.intercalate pieces).length + separator.length =
      pieces.flatten.length + pieces.length * separator.length := by
  induction pieces with
  | nil => exact absurd rfl some
  | cons piece rest ih =>
      by_cases last : rest = []
      · simp [last]
      · have behind := ih last
        rw [List.intercalate_cons_of_ne_nil last]
        simp only [List.length_append, List.flatten_cons, List.length_cons, Nat.succ_mul]
        omega

/-- Where pieces make up the same row without the empty ones, there are no empty ones. -/
theorem eq_of_filter {rows : List (List Nat)} (some : separator ≠ []) (anyPiece : pieces ≠ []) (anyRow : rows ≠ [])
    (same : separator.intercalate pieces = separator.intercalate rows)
    (filtered : pieces.filter (!·.isEmpty) = rows) : pieces = rows := by
  have pieceLengths := length_intercalate separator anyPiece
  have rowLengths := length_intercalate separator anyRow
  rw [same, rowLengths, ← filtered, List.flatten_filter_not_isEmpty, Nat.add_left_cancel_iff] at pieceLengths
  have count := Nat.eq_of_mul_eq_mul_right (List.length_pos_of_ne_nil some) pieceLengths
  rw [← filtered]
  exact (List.filter_eq_self.2 (List.length_filter_eq_length_iff.1 count)).symm

/-! ### Names that are joined -/

/-- A text stands somewhere in another. -/
def Holds (s within : String) : Prop := codes within <:+: codes s

/-- A text stands at the end of another. -/
def EndsIn (s ending : String) : Prop := codes ending <:+ codes s

instance (s within : String) : Decidable (Holds s within) := inferInstanceAs (Decidable (_ <:+: _))

instance (s ending : String) : Decidable (EndsIn s ending) := inferInstanceAs (Decidable (_ <:+ _))

variable {s t : String} {names : List String}

theorem Kept.ofCodes_codes (kept : Kept s) : ofCodes (codes s) = s := by
  obtain ⟨row, known, rfl⟩ := kept
  rw [codes_ofCodes row known]

theorem Kept.codes_le (kept : Kept s) : ∀ code ∈ codes s, code ≤ 0x10ffff := by
  obtain ⟨row, known, rfl⟩ := kept
  rwa [codes_ofCodes row known]

theorem Kept.codes_append (kept : Kept s) (t : String) : codes (s ++ t) = codes s ++ codes t := by
  obtain ⟨row, known, rfl⟩ := kept
  rw [codes_ofCodes row known, codes, ofCodes, String.toList_append, String.toList_ofList]
  induction row with
  | nil => rfl
  | cons code rest ih =>
      rw [List.flatMap_cons, List.append_assoc, codesOf_charsOf_append (known code (by simp)),
        ih fun other within => known other (List.mem_cons_of_mem _ within)]
      rfl

theorem Kept.append (first : Kept s) (second : Kept t) : Kept (s ++ t) := by
  obtain ⟨row, known, rfl⟩ := first
  obtain ⟨other, knownOther, rfl⟩ := second
  refine ⟨row ++ other, fun code within => ?_, ?_⟩
  · exact (List.mem_append.1 within).elim (known code) (knownOther code)
  · rw [ofCodes, List.flatMap_append, String.ofList_append]
    rfl

theorem Kept.intercalate {separator : String} (kept : Kept separator) (all : ∀ name ∈ names, Kept name) :
    Kept (separator.intercalate names) := by
  induction names with
  | nil => exact ⟨[], by simp, rfl⟩
  | cons name rest ih =>
      have behind := ih fun other within => all other (List.mem_cons_of_mem _ within)
      by_cases last : rest = []
      · rw [last, String.intercalate_singleton]
        exact all name (by simp)
      · rw [String.intercalate_cons_of_ne_nil last]
        exact ((all name (by simp)).append kept).append behind

theorem map_ofCodes_codes (all : ∀ name ∈ names, Kept name) : (names.map codes).map ofCodes = names := by
  rw [List.map_map]
  refine (List.map_congr_left fun name within => ?_).trans (List.map_id _)
  exact (all name within).ofCodes_codes

theorem map_codes_ofCodes {rows : List (List Nat)} (known : ∀ row ∈ rows, ∀ code ∈ row, code ≤ 0x10ffff) :
    (rows.map ofCodes).map codes = rows := by
  rw [List.map_map]
  refine (List.map_congr_left fun row within => ?_).trans (List.map_id _)
  exact codes_ofCodes row (known row within)

theorem isEmpty_ofCodes {row : List Nat} (known : ∀ code ∈ row, code ≤ 0x10ffff) :
    (ofCodes row).isEmpty = row.isEmpty := by
  rw [Bool.eq_iff_iff, String.isEmpty_iff, List.isEmpty_iff]
  constructor
  · intro nothing
    rw [← codes_ofCodes row known, nothing]
    rfl
  · rintro rfl
    rfl

/-- Joined texts have the code points of the texts and of the separators between them. -/
theorem codes_intercalate {separator : String} (kept : Kept separator) (all : ∀ name ∈ names, Kept name) :
    codes (separator.intercalate names) = (codes separator).intercalate (names.map codes) := by
  induction names with
  | nil => rfl
  | cons name rest ih =>
      have behind := ih fun other within => all other (List.mem_cons_of_mem _ within)
      by_cases last : rest = []
      · simp [last]
      · rw [String.intercalate_cons_of_ne_nil last, String.append_assoc, (all name (by simp)).codes_append,
          kept.codes_append, behind, List.map_cons,
          List.intercalate_cons_of_ne_nil (by simpa using last), List.append_assoc]

end Text

/-! ### The separator of rule names -/

namespace Approval

open Text

variable {names : List String}

theorem codes_ruleSeparator : codes ruleSeparator = [0x20, 0x2b, 0x20] := by decide +kernel

theorem ruleSeparator_ne_nil : codes ruleSeparator ≠ [] := by
  rw [codes_ruleSeparator]
  exact List.cons_ne_nil _ _

theorem codes_ending : codes " +" = [0x20, 0x2b] := by decide +kernel

theorem ruleSeparator_kept : Kept ruleSeparator := ⟨[0x20, 0x2b, 0x20], by decide, by decide +kernel⟩

/-- The separator of rule names can begin within a name that does not have it in one way alone. -/
theorem clear_iff (row : List Nat) :
    Clear (codes ruleSeparator) row ↔ ¬ codes ruleSeparator <:+: row ∧ ¬ codes " +" <:+ row := by
  have starts (code : Nat) (rest : List Nat) :
      codes ruleSeparator <+: code :: rest ++ codes ruleSeparator ↔
        codes ruleSeparator <+: code :: rest ∨ codes " +" = code :: rest := by
    rw [codes_ruleSeparator, codes_ending]
    -- Of one code alone it cannot be the beginning: the separator behind it has a blank where a plus is needed.
    rcases rest with _ | ⟨next, _ | ⟨last, more⟩⟩ <;> simp [List.cons_prefix_cons]
  induction row with
  | nil => simp [Clear, codes_ruleSeparator, codes_ending]
  | cons code rest ih =>
      simp only [clear_cons_iff, ih, starts, List.infix_cons_iff, List.suffix_cons_iff]
      tauto

theorem pieces_iff {pieces : List (List Nat)} (some : pieces ≠ []) :
    Pieces (codes ruleSeparator) pieces ↔
      (∀ piece ∈ pieces, ¬ codes ruleSeparator <:+: piece) ∧ ∀ piece ∈ pieces.dropLast, ¬ codes " +" <:+ piece := by
  induction pieces with
  | nil => exact absurd rfl some
  | cons piece rest ih =>
      by_cases last : rest = []
      · subst last
        simp [Pieces]
      · rw [pieces_cons last, ih last, clear_iff, List.dropLast_cons_of_ne_nil last]
        simp only [List.forall_mem_cons]
        tauto

/-- The names in a joined text are the pieces that have something. -/
theorem splitNames_of_pieces {joined : String} {pieces : List (List Nat)} (kept : Kept joined)
    (cut : Pieces (codes ruleSeparator) pieces) (made : (codes ruleSeparator).intercalate pieces = codes joined) :
    splitNames joined = (pieces.filter (!·.isEmpty)).map ofCodes ∧
      ∀ piece ∈ pieces, ∀ code ∈ piece, code ≤ 0x10ffff := by
  have known : ∀ piece ∈ pieces, ∀ code ∈ piece, code ≤ 0x10ffff := by
    intro piece member code within
    exact kept.codes_le code (made ▸ mem_intercalate member within)
  refine ⟨?_, known⟩
  have parts := (splitCodes_eq_iff ruleSeparator_ne_nil (Nat.lt_succ_self (codes joined).length)).2 ⟨cut, made⟩
  rw [splitNames, splitBy, parts, List.filter_map]
  refine congrArg (List.map ofCodes) (List.filter_congr fun piece member => ?_)
  rw [Function.comp_apply, isEmpty_ofCodes (known piece member)]

/-- Names that were joined are told apart again exactly where none of them has the separator and none but the last one
ends in its beginning. -/
theorem splitNames_joined_iff (kept : ∀ name ∈ names, Kept name) (named : ∀ name ∈ names, name ≠ "") :
    splitNames (ruleSeparator.intercalate names) = names ↔
      (∀ name ∈ names, ¬ Holds name ruleSeparator) ∧ ∀ name ∈ names.dropLast, ¬ EndsIn name " +" := by
  by_cases none : names = []
  · subst none
    simp only [String.intercalate_nil, List.not_mem_nil, false_implies, implies_true, List.dropLast_nil, and_self,
      iff_true]
    decide +kernel
  have someRow : names.map codes ≠ [] := by simpa using none
  have parted := pieces_iff someRow
  rw [← List.map_dropLast, List.forall_mem_map, List.forall_mem_map] at parted
  refine Iff.trans ?_ parted
  have joined := codes_intercalate ruleSeparator_kept kept
  obtain ⟨pieces, cut, made⟩ := exists_pieces ruleSeparator_ne_nil (codes (ruleSeparator.intercalate names))
  obtain ⟨split, known⟩ := splitNames_of_pieces (ruleSeparator_kept.intercalate kept) cut made
  constructor
  · intro same
    -- The row is as long as its pieces and separators, so no piece was left out.
    have filtered : pieces.filter (!·.isEmpty) = names.map codes := by
      rw [← same, split, map_codes_ofCodes fun piece member => known piece (List.mem_of_mem_filter member)]
    rwa [← eq_of_filter ruleSeparator_ne_nil cut.ne_nil someRow (made.trans joined) filtered]
  · intro rows
    have whole : (names.map codes).filter (!·.isEmpty) = names.map codes := by
      refine List.filter_eq_self.2 fun row member => ?_
      obtain ⟨name, within, rfl⟩ := List.mem_map.1 member
      rw [← isEmpty_ofCodes (kept name within).codes_le, (kept name within).ofCodes_codes]
      simpa using named name within
    rw [(splitNames_of_pieces (ruleSeparator_kept.intercalate kept) rows joined.symm).1, whole, map_ofCodes_codes kept]

end Approval

/-! ### Requests that tell no rules -/

/-- A request is answered as it was stored. -/
theorem RequestStore.of_exec_add {request added : Request} {s s' : ServiceState}
    (stored : Service.exec (RequestStore.add request) s = (.ok added, s')) : added = request := by
  unfold RequestStore.add at stored
  obtain ⟨here, _, -, stored⟩ := Service.exists_of_exec_bind stored
  split at stored
  · obtain ⟨_, _, -, answered⟩ := Service.exists_of_exec_bind stored
    cases answered
    rfl
  · cases stored

namespace Approval

open Service

/-- A request that is stored is the one that was asked for. -/
theorem of_enter_ask {ask : Ask} {s s' : ServiceState} {request : Request} (some : ask.approvers ≠ [])
    (entered : exec (enter ask.proposal (ask.approvers.map .text)) s = (.ok request, s')) :
    ∃ id time, request = ask.request id time := by
  unfold enter at entered
  rw [rolesToRules_ask, exec_bind_ok (exec_settle _)] at entered
  obtain ⟨time, _, -, entered⟩ := exists_of_exec_bind entered
  obtain ⟨id, _, -, entered⟩ := exists_of_exec_bind entered
  rw [check_ask some id time, exec_bind_ok (exec_accept_accepted _ _)] at entered
  exact ⟨id, time, RequestStore.of_exec_add entered⟩

/-- A request that is opened is the one that was asked for, and it names roles. -/
theorem of_openRequest_ask {ask : Ask} {s s' : ServiceState} {request : Request}
    (opened : exec (openRequest ask.proposal) s = (.ok request, s')) :
    ask.approvers ≠ [] ∧ ∃ id time, request = ask.request id time := by
  rw [openRequest_eq] at opened
  obtain ⟨roles, _, vetted, opened⟩ := exists_of_exec_bind opened
  obtain ⟨some, rfl⟩ := of_vet_ask vetted
  obtain ⟨added, _, entered, opened⟩ := exists_of_exec_bind opened
  obtain ⟨_, _, -, answered⟩ := exists_of_exec_bind opened
  cases answered
  exact ⟨some, of_enter_ask some entered⟩

end Approval

/-- Rules whose names can be joined to one text and told apart again: no name has the separator, and no name but the
last ends in its beginning. -/
def Rule.Separable (rules : List Rule) : Prop :=
  (∀ rule ∈ rules, ¬ Text.Holds rule.name ruleSeparator) ∧ ∀ rule ∈ rules.dropLast, ¬ Text.EndsIn rule.name " +"

instance (rules : List Rule) : Decidable (Rule.Separable rules) := inferInstanceAs (Decidable (_ ∧ _))

namespace Approval

open Service

/-- From the joined names of rules just these names are recovered, in order, exactly where the rules are separable; and
so they are for each role of a request that is opened with the joined names and does not tell the rules of its roles. -/
theorem recovers_names_iff {rules : List Rule} (kept : ∀ rule ∈ rules, Text.Kept rule.name)
    (named : ∀ rule ∈ rules, rule.name ≠ "") :
    (splitNames (Requirements.ofRules rules).ruleTriggered = rules.map (·.name) ↔ Rule.Separable rules) ∧
    ∀ (ask : Ask) (s s' : ServiceState) (request : Request), ask.rule = (Requirements.ofRules rules).ruleTriggered →
      ask.rules = none → exec (openRequest ask.proposal) s = (.ok request, s') →
      (request.roleToRules = request.approvers.map (fun role => (role, rules.map (·.name))) ↔
        Rule.Separable rules) := by
  have recovered : splitNames (Requirements.ofRules rules).ruleTriggered = rules.map (·.name) ↔
      Rule.Separable rules := by
    have iff := splitNames_joined_iff (List.forall_mem_map.2 kept) (List.forall_mem_map.2 named)
    rwa [← List.map_dropLast, List.forall_mem_map, List.forall_mem_map] at iff
  refine ⟨recovered, fun ask s s' request told untold opened => ?_⟩
  obtain ⟨some, id, time, rfl⟩ := of_openRequest_ask opened
  rw [← recovered, ← told]
  have written : (ask.request id time).roleToRules =
      (ask.request id time).approvers.map fun role => (role, splitNames ask.rule) := by
    simp only [Ask.request, Ask.roleToRules, untold, Option.getD_none]
  obtain ⟨role, member⟩ := List.exists_mem_of_ne_nil _ some
  rw [written]
  constructor
  · intro same
    exact congrArg Prod.snd (List.map_inj_left.1 same role member)
  · intro same
    rw [same]

end Approval

namespace Trial

/-- Rules of some names. -/
def namedRules (names : List String) : List Rule :=
  names.map fun name => { formulaRule "RULE-1" 0 true "CFO" with name }

/-- A name that begins like the end of the separator, and a last one that ends in its beginning. -/
def separableRules : List Rule := namedRules ["a", "+ b", "c +"]

/-- What is asked for a ticket when those rules triggered. -/
def untoldAsk : Approval.Ask :=
  { ticketId := "T", roles := ["CFO", "Legal"], rule := (Requirements.ofRules separableRules).ruleTriggered }

def draftTicket : Ticket where
  id := "T"
  status := .draft
  fields := []
  company := none
  createdAt := ⟨0, none⟩
  updatedAt := ⟨0, none⟩

def draftState : ServiceState where
  store := { tickets := [Document.kept draftTicket.document] }
  clock := 0

/-- Whether names are kept for code points, and are not empty. -/
def NamesKept (rules : List Rule) : Prop :=
  ∀ rule ∈ rules, ((∀ code ∈ Text.codes rule.name, code ≤ 0x10ffff) ∧
    Text.ofCodes (Text.codes rule.name) = rule.name) ∧ rule.name ≠ ""

instance (rules : List Rule) : Decidable (NamesKept rules) := inferInstanceAs (Decidable (∀ _ ∈ _, _))

end Trial

namespace Approval

open Service

/-- Both roles are told the three names, of which neither beginning nor end misleads. Where the name that ends in the
beginning of the separator does not come last, it is torn. -/
theorem recovers_names_iff_of_separableRules :
    (∃ request s', exec (openRequest Trial.untoldAsk.proposal) Trial.draftState = (.ok request, s') ∧
      request.roleToRules = [("CFO", ["a", "+ b", "c +"]), ("Legal", ["a", "+ b", "c +"])]) ∧
    splitNames (Requirements.ofRules (Trial.namedRules ["c +", "a"])).ruleTriggered ≠ ["c +", "a"] := by
  have kept {rules : List Rule} (known : Trial.NamesKept rules) : ∀ rule ∈ rules, Text.Kept rule.name :=
    fun rule within => ⟨_, (known rule within).1⟩
  have here : Trial.NamesKept Trial.separableRules := by decide +kernel
  have there : Trial.NamesKept (Trial.namedRules ["c +", "a"]) := by decide +kernel
  obtain ⟨-, recovers⟩ := recovers_names_iff (kept here) fun rule within => (here rule within).2
  obtain ⟨torn, -⟩ := recovers_names_iff (kept there) fun rule within => (there rule within).2
  obtain ⟨request, s', opened, roles⟩ := exists_of_answer (openRequest Trial.untoldAsk.proposal) Trial.draftState
    (fun request => request.approvers == ["CFO", "Legal"]) (by decide +kernel)
  refine ⟨⟨request, s', opened, ?_⟩, torn.not.2 (by decide +kernel)⟩
  rw [(recovers _ _ _ _ rfl rfl opened).2 (by decide +kernel), beq_iff_eq.1 roles]
  rfl

end Approval

end Countersign
