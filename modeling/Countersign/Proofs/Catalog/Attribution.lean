/-
Module: Countersign.Proofs.Catalog.Attribution
Purpose: Which roles rules demand together, and which rules each of these roles answers for.
Main exports: FirstSeen, FirstSeen.distinct, Collected, Collected.ofRules, Collected.ofRules_eq,
  Requirements.mem_approvers_iff, Requirements.ofRules_attributes
-/
import Countersign.Proofs.Catalog.Requirements

namespace Countersign

/-!
What rules demand can be collected in one pass over the rules and the roles of each: a role that comes for the first
time is put at the end, and the name of the rule is put under it unless it stands there. Roles may come again within a
rule and rules may share a name. After any number of steps the roles are those that came, each in the place where it
came first, and under each of them are the names of the rules that brought it, in the same way.
-/

/-! ### Names where they first come -/

/-- Names taken from a row of names: all that the row has, in the order in which they first come in it. -/
structure FirstSeen (row names : List String) : Prop where
  mem_iff : ∀ name, name ∈ names ↔ name ∈ row
  inOrder : names.Pairwise fun one other => row.idxOf one < row.idxOf other

namespace FirstSeen

variable {row names : List String}

theorem nil : FirstSeen [] [] := ⟨fun _ => Iff.rfl, .nil⟩

/-- No name is taken twice. -/
theorem nodup (seen : FirstSeen row names) : names.Nodup :=
  seen.inOrder.imp fun early same => absurd (same ▸ early) (Nat.lt_irrefl _)

/-- A further name of the row is taken unless it is there. -/
theorem concat (seen : FirstSeen row names) (name : String) :
    FirstSeen (row ++ [name]) (Requirements.addOnce names name) := by
  have earlier : names.Pairwise fun one other => (row ++ [name]).idxOf one < (row ++ [name]).idxOf other := by
    refine seen.inOrder.imp_of_mem fun {one other} inside within early => ?_
    rwa [List.idxOf_append_of_mem ((seen.mem_iff one).1 inside),
      List.idxOf_append_of_mem ((seen.mem_iff other).1 within)]
  by_cases known : name ∈ names
  · rw [Requirements.addOnce, if_pos (by simpa using known)]
    refine ⟨fun other => ?_, earlier⟩
    rw [seen.mem_iff, List.mem_append, List.mem_singleton]
    exact ⟨Or.inl, fun there => there.elim id fun same => (seen.mem_iff other).1 (same ▸ known)⟩
  · rw [Requirements.addOnce, if_neg (by simpa using known)]
    have missing : name ∉ row := fun inside => known ((seen.mem_iff name).2 inside)
    refine ⟨fun other => by simp [seen.mem_iff], List.pairwise_append.2 ⟨earlier, by simp, ?_⟩⟩
    intro other within last same
    rw [List.mem_singleton.1 same, List.idxOf_append_of_mem ((seen.mem_iff other).1 within), List.idxOf_append,
      if_neg missing]
    exact Nat.lt_of_lt_of_le (List.idxOf_lt_length_iff.2 ((seen.mem_iff other).1 within)) (Nat.le_add_left _ _)

theorem foldl_addOnce (seen : FirstSeen row names) (more : List String) :
    FirstSeen (row ++ more) (more.foldl Requirements.addOnce names) := by
  induction more generalizing row names with
  | nil => simpa using seen
  | cons name rest ih => simpa using ih (seen.concat name)

/-- The names without repetitions are those of the row. -/
theorem distinct (row : List String) : FirstSeen row (Requirements.distinct row) := nil.foldl_addOnce row

end FirstSeen

namespace Requirements

theorem distinct_concat (names : List String) (name : String) :
    distinct (names ++ [name]) = addOnce (distinct names) name := by
  rw [distinct, List.foldl_append]
  rfl

theorem mem_distinct_iff {names : List String} {name : String} : name ∈ distinct names ↔ name ∈ names :=
  (FirstSeen.distinct names).mem_iff name

theorem addOnce_of_mem {names : List String} {name : String} (known : name ∈ names) : addOnce names name = names := by
  rw [addOnce, if_pos (by simpa using known)]

theorem mem_addOnce_self (names : List String) (name : String) : name ∈ addOnce names name := by
  by_cases known : name ∈ names <;> simp [addOnce, known]

end Requirements

/-! ### One pass over rules and roles -/

/-- What was collected so far: the roles, and under each of them the names of rules. -/
structure Collected where
  approvers : List String := []
  roleToRules : List (String × List String) := []
deriving DecidableEq, Repr

/-- A role that a rule demands, and the name of the rule. -/
abbrev Demand := String × String

/-- What rules demand, one demand after the other. -/
def demandsOf (rules : List Rule) : List Demand :=
  rules.flatMap fun rule => rule.approvers.map fun role => (role, rule.name)

namespace Collected

/-- A place for a role, at the end, unless it has one. -/
def place (collected : Collected) (role : String) : Collected :=
  if (collected.roleToRules.map (·.1)).contains role then collected
  else ⟨collected.approvers ++ [role], collected.roleToRules ++ [(role, [])]⟩

/-- Put the name of a rule under a role unless it stands there. -/
def credit (collected : Collected) (role name : String) : Collected :=
  { collected with roleToRules := collected.roleToRules.map fun (other, names) =>
      (other, if other = role then Requirements.addOnce names name else names) }

/-- Collect one role of a rule. -/
def note (name : String) (collected : Collected) (role : String) : Collected :=
  (collected.place role).credit role name

/-- Collect the roles of a rule. -/
def noteRule (collected : Collected) (rule : Rule) : Collected := rule.approvers.foldl (note rule.name) collected

/-- Collect the roles of all rules. -/
def ofRules (rules : List Rule) : Collected := rules.foldl noteRule {}

/-- What was collected is what some demands come to. -/
structure Exact (demands : List Demand) (collected : Collected) : Prop where
  approvers : collected.approvers = Requirements.distinct (demands.map (·.1))
  roleToRules : collected.roleToRules = collected.approvers.map fun role =>
    (role, Requirements.distinct ((demands.filter (·.1 == role)).map (·.2)))

namespace Exact

variable {demands : List Demand} {collected : Collected}

theorem nil : Exact [] {} := ⟨rfl, rfl⟩

theorem keys (exact : Exact demands collected) : collected.roleToRules.map (·.1) = collected.approvers := by
  rw [exact.roleToRules, List.map_map]
  exact List.map_id _

/-- A role that was not demanded has no names under it. -/
theorem filter_of_missing {role : String} (missing : role ∉ demands.map (·.1)) :
    demands.filter (·.1 == role) = [] := by
  rw [List.filter_eq_nil_iff]
  intro demand within same
  exact missing (beq_iff_eq.1 same ▸ List.mem_map_of_mem within)

/-- A role gets its place with the first demand for it, and with that an empty list of names. -/
theorem place (exact : Exact demands collected) (role : String) :
    (collected.place role).approvers = Requirements.distinct (demands.map (·.1) ++ [role]) ∧
      (collected.place role).roleToRules = (collected.place role).approvers.map fun other =>
        (other, Requirements.distinct ((demands.filter (·.1 == other)).map (·.2))) := by
  rw [Requirements.distinct_concat, ← exact.approvers, Collected.place, exact.keys, Requirements.addOnce]
  by_cases known : role ∈ collected.approvers
  · rw [if_pos (by simpa using known), if_pos (by simpa using known)]
    exact ⟨rfl, exact.roleToRules⟩
  · have missing : role ∉ demands.map (·.1) := by
      rwa [exact.approvers, Requirements.mem_distinct_iff] at known
    rw [if_neg (by simpa using known), if_neg (by simpa using known)]
    refine ⟨rfl, ?_⟩
    rw [List.map_append, ← exact.roleToRules, List.map_singleton, filter_of_missing missing]
    rfl

/-- One more demand is collected exactly. -/
theorem note (exact : Exact demands collected) (role name : String) :
    Exact (demands ++ [(role, name)]) (collected.note name role) := by
  obtain ⟨approvers, roleToRules⟩ := exact.place role
  constructor
  · rw [List.map_append]
    exact approvers
  · rw [Collected.note, credit, roleToRules, List.map_map]
    refine List.map_congr_left fun other _ => ?_
    dsimp only [Function.comp_apply]
    rw [List.filter_append, List.map_append]
    by_cases same : other = role
    · subst same
      have last : [((other, name) : Demand)].filter (·.1 == other) = [(other, name)] := by simp
      rw [if_pos rfl, last, List.map_singleton, Requirements.distinct_concat]
    · have none : [((role, name) : Demand)].filter (·.1 == other) = [] := by
        simpa using fun equal : role = other => same equal.symm
      rw [if_neg same, none, List.map_nil, List.append_nil]

/-- The demands of one more rule are collected exactly. -/
theorem noteRule (exact : Exact demands collected) (rule : Rule) :
    Exact (demands ++ rule.approvers.map fun role => (role, rule.name)) (collected.noteRule rule) := by
  rw [Collected.noteRule]
  induction rule.approvers generalizing demands collected with
  | nil => simpa using exact
  | cons role rest ih => simpa using ih (exact.note role rule.name)

theorem foldl_noteRule (exact : Exact demands collected) (rules : List Rule) :
    Exact (demands ++ demandsOf rules) (rules.foldl Collected.noteRule collected) := by
  induction rules generalizing demands collected with
  | nil => simpa [demandsOf] using exact
  | cons rule rest ih => simpa [demandsOf] using ih (exact.noteRule rule)

theorem ofRules (rules : List Rule) : Exact (demandsOf rules) (Collected.ofRules rules) := nil.foldl_noteRule rules

end Exact

end Collected

namespace Requirements

theorem map_fst_demandsOf (rules : List Rule) : (demandsOf rules).map (·.1) = rules.flatMap (·.approvers) := by
  rw [demandsOf, List.map_flatMap]
  refine congrArg (List.flatMap · rules) (funext fun rule => ?_)
  rw [List.map_map]
  exact List.map_id _

/-- A rule that demands a role more than once gives its name once. -/
theorem foldl_addOnce_demands (role name : String) (roles names : List String) :
    (((roles.map fun other => ((other, name) : Demand)).filter (·.1 == role)).map (·.2)).foldl addOnce names =
      if roles.contains role then addOnce names name else names := by
  induction roles generalizing names with
  | nil => rfl
  | cons other rest ih =>
      by_cases same : other = role
      · subst same
        have onward := ih (addOnce names name)
        rw [addOnce_of_mem (mem_addOnce_self names name), ite_self] at onward
        simpa using onward
      · have missing : (other == role) = false := by simpa using same
        have different : ¬ role = other := fun equal => same equal.symm
        simpa [missing, different] using ih names

/-- Under a role are the names of the rules that demand it, however often they do. -/
theorem distinct_demands (rules : List Rule) (role : String) :
    distinct (((demandsOf rules).filter (·.1 == role)).map (·.2)) = rulesOf rules role := by
  have through (names : List String) :
      (((demandsOf rules).filter (·.1 == role)).map (·.2)).foldl addOnce names =
        ((rules.filter (·.approvers.contains role)).map (·.name)).foldl addOnce names := by
    induction rules generalizing names with
    | nil => rfl
    | cons rule rest ih =>
        rw [demandsOf, List.flatMap_cons, List.filter_append, List.map_append, List.foldl_append,
          foldl_addOnce_demands, List.filter_cons]
        split
        · exact ih _
        · exact ih _
  exact through []

end Requirements

/-- The pass over rules and roles collects what is demanded. -/
theorem Collected.ofRules_eq (rules : List Rule) :
    Collected.ofRules rules =
      ⟨(Requirements.ofRules rules).approvers, (Requirements.ofRules rules).roleToRules⟩ := by
  obtain ⟨approvers, roleToRules⟩ := Exact.ofRules rules
  rw [Requirements.map_fst_demandsOf] at approvers
  have under : (Collected.ofRules rules).roleToRules = (Requirements.ofRules rules).roleToRules := by
    rw [roleToRules, approvers]
    exact List.map_congr_left fun role _ => congrArg _ (Requirements.distinct_demands rules role)
  cases collected : Collected.ofRules rules
  rw [collected] at approvers under
  rw [← under]
  exact congrArg (Collected.mk · _) approvers

namespace Requirements

/-- A role has to approve where a rule names it. -/
theorem mem_approvers_iff {rules : List Rule} {role : String} :
    role ∈ (ofRules rules).approvers ↔ ∃ rule ∈ rules, role ∈ rule.approvers :=
  mem_distinct_iff.trans List.mem_flatMap

theorem requiresApproval_eq_false_iff {rules : List Rule} :
    (ofRules rules).requiresApproval = false ↔ ∀ rule ∈ rules, rule.approvers = [] := by
  rw [requiresApproval, Bool.not_eq_false', List.isEmpty_iff, List.eq_nil_iff_forall_not_mem]
  simp only [mem_approvers_iff, not_exists, not_and, List.eq_nil_iff_forall_not_mem]
  exact ⟨fun none rule member role => none role rule member, fun none role rule member => none rule member role⟩

/-- What rules demand is what one pass over them and their roles collects. It lists every role that some rule names, in
the order in which the roles first come; each of these roles and no other has rules attributed to it, and they are those
that name it, by their names and in the order in which these first come; and nobody has to approve exactly where no rule
names a role. -/
theorem ofRules_attributes (rules : List Rule) :
    Collected.ofRules rules = ⟨(ofRules rules).approvers, (ofRules rules).roleToRules⟩ ∧
      (ofRules rules).approvers.Nodup ∧
      FirstSeen (rules.flatMap (·.approvers)) (ofRules rules).approvers ∧
      (ofRules rules).roleToRules.map (·.1) = (ofRules rules).approvers ∧
      (∀ role names, (role, names) ∈ (ofRules rules).roleToRules → names.Nodup ∧
        FirstSeen ((rules.filter (·.approvers.contains role)).map (·.name)) names) ∧
      ((ofRules rules).requiresApproval = false ↔ ∀ rule ∈ rules, rule.approvers = []) := by
  have roles : FirstSeen (rules.flatMap (·.approvers)) (ofRules rules).approvers := FirstSeen.distinct _
  refine ⟨Collected.ofRules_eq rules, roles.nodup, roles, ?_, fun role names member => ?_,
    requiresApproval_eq_false_iff⟩
  · change (((ofRules rules).approvers.map fun role => (role, rulesOf rules role)).map (·.1)) = _
    rw [List.map_map]
    exact List.map_id _
  · obtain ⟨_, -, same⟩ := List.mem_map.1 member
    obtain ⟨rfl, rfl⟩ := Prod.mk.inj same
    exact ⟨(FirstSeen.distinct _).nodup, FirstSeen.distinct _⟩

end Requirements

end Countersign
