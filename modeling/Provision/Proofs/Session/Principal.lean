import Provision.Proofs.Result
import Provision.Proofs.Text.Blanks
import Provision.Proofs.Text.Separated
import Provision.Session.Principal

/-!
# The domain that all brokers share

The hosts of a bootstrap text are the items between its commas, without the blanks around them and
without empty ones. A host goes by the name that is left of it without a port (`Names`), and it lies
in a domain if its name is one label, a dot and the domain (`LiesIn`). The brokers have an identity
of their own just if there are hosts and one domain in which all of them lie, and the identity is the
wildcard over that domain; without hosts a later attempt may find some, and every other text is
refused (`principal_of_hosts`). So the order of the hosts, their repetition and their ports do not
matter.
-/

set_option autoImplicit false

namespace Provision.Session

open Text (Between trimChars)

/-! ## Hosts -/

/-- A host is what stands between two commas, without blanks around it, unless nothing is left. -/
def IsHost (raw : String) (host : List Char) : Prop :=
  host ≠ [] ∧ ∃ item, Between ',' item raw.toList ∧ host = trimChars item

/-- **The addresses of a text are its hosts.** -/
theorem mem_splitBrokers {raw broker : String} :
    broker ∈ splitBrokers raw ↔ IsHost raw broker.toList := by
  simp only [splitBrokers, IsHost, List.mem_map, List.mem_filter, Text.mem_pieces_iff,
    Bool.not_eq_true', List.isEmpty_eq_false_iff]
  constructor
  · rintro ⟨host, ⟨⟨item, between, rfl⟩, something⟩, rfl⟩
    rw [String.toList_ofList]
    exact ⟨something, item, between, rfl⟩
  · rintro ⟨something, item, between, same⟩
    refine ⟨broker.toList, ⟨⟨item, between, same.symm⟩, something⟩, String.ofList_toList⟩

theorem splitBrokers_eq_nil_iff {raw : String} :
    splitBrokers raw = [] ↔ ¬ ∃ host, IsHost raw host := by
  rw [List.eq_nil_iff_forall_not_mem, not_exists]
  constructor
  · intro none host isHost
    refine none (String.ofList host) (mem_splitBrokers.mpr ?_)
    rwa [String.toList_ofList]
  · exact fun none broker present => none _ (mem_splitBrokers.mp present)

/-- No blanks are left around a host. -/
theorem IsHost.trimChars_eq {raw : String} {host : List Char} (isHost : IsHost raw host) :
    trimChars host = host := by
  obtain ⟨-, item, -, rfl⟩ := isHost
  exact Text.trimChars_trimChars item

/-! ## Names of hosts -/

/-- The host goes by the name: it is the name and a port, which is a colon with only digits behind
it, or there is no port. -/
inductive Names (host : List Char) : List Char → Prop
  | ported {name port : List Char} (numeric : port.all Char.isDigit = true)
      (shape : host = name ++ ':' :: port) : Names host name
  | portless (plain : ∀ name port, host = name ++ ':' :: port → port.all Char.isDigit = false) :
      Names host host

/-- **A host goes by what is left of it without its port.** -/
theorem names_iff {host name : List Char} : Names host name ↔ withoutPort host = name := by
  constructor
  · rintro (⟨numeric, rfl⟩ | plain)
    · rename_i port
      have last : ':' ∉ port := fun present => by
        have digit := List.all_eq_true.mp numeric ':' present
        cases digit
      simp [withoutPort, Text.cutLast_eq_some_iff.mpr ⟨last, rfl⟩, numeric]
    · unfold withoutPort
      split
      · rename_i front port cut
        rw [plain front port (Text.cutLast_eq_some_iff.mp cut).2]
        rfl
      · rfl
  · rintro rfl
    unfold withoutPort
    split
    · rename_i front port cut
      obtain ⟨last, shape⟩ := Text.cutLast_eq_some_iff.mp cut
      split
      · rename_i numeric
        exact .ported numeric shape
      · rename_i other
        refine .portless fun name digits same => ?_
        by_contra numeric
        rw [Bool.not_eq_false] at numeric
        have free : ':' ∉ digits := fun present => by
          have digit := List.all_eq_true.mp numeric ':' present
          cases digit
        have again := Text.cutLast_eq_some_iff.mpr ⟨free, same⟩
        rw [cut] at again
        cases again
        exact other numeric
    · rename_i cut
      refine .portless fun name port same => ?_
      have absent := Text.cutLast_eq_none_iff.mp cut
      rw [same] at absent
      simp at absent

/-- The name is a label and the domain behind it. -/
def DirectlyIn (domain name : List Char) : Prop :=
  domain ≠ [] ∧ ∃ label, label ≠ [] ∧ '.' ∉ label ∧ name = label ++ '.' :: domain

/-- The host goes by a name directly in the domain. -/
def LiesIn (domain host : List Char) : Prop :=
  ∃ name, Names host name ∧ DirectlyIn domain name

/-- **The domain of a broker is the one in which its host lies.** -/
theorem brokerDomain_eq_ok_iff {broker domain : String} :
    brokerDomain broker = .ok domain ↔ LiesIn domain.toList (trimChars broker.toList) := by
  simp only [LiesIn, names_iff, exists_eq_left', DirectlyIn, brokerDomain]
  constructor
  · intro found
    split at found
    · rename_i label behind cut
      split at found
      · cases found
      · rename_i filled
        cases found
        obtain ⟨free, shape⟩ := Text.cutFirst_eq_some_iff.mp cut
        simp only [Bool.or_eq_true, List.isEmpty_iff, not_or] at filled
        rw [String.toList_ofList]
        exact ⟨filled.2, label, filled.1, free, shape⟩
    · cases found
  · rintro ⟨something, label, filled, free, shape⟩
    rw [Text.cutFirst_eq_some_iff.mpr ⟨free, shape⟩]
    simp [filled, something]

theorem kind_of_brokerDomain {broker : String} {failure : Failure}
    (refused : brokerDomain broker = .error failure) : failure.kind = .validation := by
  simp only [brokerDomain] at refused
  split at refused
  · split at refused
    · cases refused
      rfl
    · cases refused
  · cases refused
    rfl

/-! ## All domains -/

theorem mem_insertSorted {text other : String} {texts : List String} :
    other ∈ insertSorted text texts ↔ other = text ∨ other ∈ texts := by
  induction texts with
  | nil => simp [insertSorted]
  | cons first rest ih =>
      unfold insertSorted
      split
      · rename_i same
        simp [same]
      · split
        · simp
        · rw [List.mem_cons, ih, List.mem_cons, or_left_comm]

theorem mem_foldr_insertSorted {other : String} {texts : List String} :
    other ∈ texts.foldr insertSorted [] ↔ other ∈ texts := by
  induction texts with
  | nil => rfl
  | cons text rest ih => rw [List.foldr_cons, mem_insertSorted, ih, List.mem_cons]

/-- One text is left of texts that are all the same. -/
theorem foldr_insertSorted_eq_singleton {text : String} {texts : List String} :
    texts.foldr insertSorted [] = [text] ↔ texts ≠ [] ∧ ∀ other ∈ texts, other = text := by
  constructor
  · intro single
    refine ⟨fun empty => by simp [empty] at single, fun other present => ?_⟩
    rw [← mem_foldr_insertSorted, single] at present
    exact List.mem_singleton.mp present
  · rintro ⟨something, same⟩
    induction texts with
    | nil => exact absurd rfl something
    | cons first rest ih =>
        obtain ⟨rfl, same⟩ := List.forall_mem_cons.mp same
        cases rest with
        | nil => rfl
        | cons next more =>
            rw [List.foldr_cons, ih (List.cons_ne_nil next more) same]
            simp [insertSorted]

/-- **One domain is found if every broker is in it,** and there is one. -/
theorem brokerDomains_eq_singleton {brokers : List String} {domain : String} :
    brokerDomains brokers = .ok [domain] ↔
      brokers ≠ [] ∧ ∀ broker ∈ brokers, brokerDomain broker = .ok domain := by
  constructor
  · intro single
    obtain ⟨found, made, single⟩ := exists_of_bind_eq_ok single
    obtain ⟨something, same⟩ := foldr_insertSorted_eq_singleton.mp (Except.ok.inj single)
    have each := mapM_eq_ok.mp made
    refine ⟨fun none => ?_, fun broker present => ?_⟩
    · rw [none, List.map_nil, eq_comm, List.map_eq_nil_iff] at each
      exact something each
    · have inside : brokerDomain broker ∈ found.map Except.ok :=
        each ▸ List.mem_map_of_mem present
      obtain ⟨other, there, given⟩ := List.mem_map.mp inside
      rw [← given, same other there]
  · rintro ⟨something, same⟩
    have each : brokers.map brokerDomain = (brokers.map fun _ => domain).map .ok := by
      rw [List.map_map]
      exact List.map_congr_left same
    rw [brokerDomains, mapM_eq_ok.mpr each]
    refine congrArg Except.ok (foldr_insertSorted_eq_singleton.mpr ⟨by simpa using something, ?_⟩)
    intro other present
    obtain ⟨-, -, rfl⟩ := List.mem_map.mp present
    rfl

/-- No domains are found only if there are no brokers. -/
theorem brokerDomains_eq_nil {brokers : List String} (found : brokerDomains brokers = .ok []) :
    brokers = [] := by
  obtain ⟨domains, made, sorted⟩ := exists_of_bind_eq_ok found
  have each := mapM_eq_ok.mp made
  cases domains with
  | nil => exact List.map_eq_nil_iff.mp each
  | cons domain others =>
      have kept : domain ∈ (domain :: others).foldr insertSorted [] :=
        mem_foldr_insertSorted.mpr List.mem_cons_self
      rw [Except.ok.inj sorted] at kept
      cases kept

/-! ## The principal -/

/-- **The principal is the wildcard over the domain that all brokers are in.** -/
theorem bootstrapPrincipal_eq_ok_iff {brokers : List String} {principal : String} :
    bootstrapPrincipal brokers = .ok principal ↔
      ∃ domain, principal = "User:CN=*." ++ domain ∧ brokers ≠ [] ∧
        ∀ broker ∈ brokers, brokerDomain broker = .ok domain := by
  simp only [← brokerDomains_eq_singleton]
  constructor
  · intro made
    obtain ⟨domains, found, made⟩ := exists_of_bind_eq_ok made
    split at made
    · cases made
    · rename_i domain
      exact ⟨domain, (Except.ok.inj made).symm, found⟩
    · cases made
  · rintro ⟨domain, rfl, found⟩
    rw [bootstrapPrincipal, found]
    rfl

/-- A principal is only missing for now if there are no brokers at all. -/
theorem kind_of_bootstrapPrincipal {brokers : List String} {failure : Failure}
    (refused : bootstrapPrincipal brokers = .error failure) :
    failure.kind = if brokers = [] then .transient else .validation := by
  cases found : brokerDomains brokers with
  | error fault =>
      rw [bootstrapPrincipal, found] at refused
      cases refused
      rw [brokerDomains] at found
      cases made : brokers.mapM brokerDomain with
      | error reason =>
          rw [made] at found
          cases found
          obtain ⟨broker, present, wrong⟩ := exists_of_mapM_eq_error made
          rw [if_neg (List.ne_nil_of_mem present), kind_of_brokerDomain wrong]
      | ok domains =>
          rw [made] at found
          cases found
  | ok domains =>
      rw [bootstrapPrincipal, found] at refused
      cases domains with
      | nil =>
          cases refused
          rw [if_pos (brokerDomains_eq_nil found)]
          rfl
      | cons domain others =>
          cases others with
          | nil => cases refused
          | cons next more =>
              cases refused
              have something : brokers ≠ [] := by
                rintro rfl
                cases found
              rw [if_neg something]
              rfl

/-! ## Texts of hosts -/

/-- A host of the text goes by the name. -/
def IsNamed (raw : String) (name : List Char) : Prop :=
  ∃ host, IsHost raw host ∧ Names host name

theorem isNamed_iff {raw : String} {name : List Char} :
    IsNamed raw name ↔ name ∈ (splitBrokers raw).map fun broker => withoutPort broker.toList := by
  simp only [IsNamed, List.mem_map, mem_splitBrokers, names_iff]
  constructor
  · rintro ⟨host, isHost, named⟩
    refine ⟨String.ofList host, ?_, ?_⟩
    · rwa [String.toList_ofList]
    · rwa [String.toList_ofList]
  · rintro ⟨broker, isHost, named⟩
    exact ⟨broker.toList, isHost, named⟩

/-- Every broker of a text is in the domain if every host lies in it. -/
theorem forall_brokerDomain_iff {raw domain : String} :
    (∀ broker ∈ splitBrokers raw, brokerDomain broker = .ok domain) ↔
      ∀ host, IsHost raw host → LiesIn domain.toList host := by
  simp only [mem_splitBrokers, brokerDomain_eq_ok_iff]
  constructor
  · intro lies host isHost
    have there := lies (String.ofList host)
    rw [String.toList_ofList, isHost.trimChars_eq] at there
    exact there isHost
  · intro lies broker isHost
    rw [isHost.trimChars_eq]
    exact lies _ isHost

theorem forall_liesIn_iff {raw : String} {domain : List Char} :
    (∀ host, IsHost raw host → LiesIn domain host) ↔
      ∀ name, IsNamed raw name → DirectlyIn domain name := by
  constructor
  · rintro lies name ⟨host, isHost, named⟩
    obtain ⟨other, named', inside⟩ := lies host isHost
    rwa [← names_iff.mp named, names_iff.mp named']
  · intro inside host isHost
    have named : Names host (withoutPort host) := names_iff.mpr rfl
    exact ⟨_, named, inside _ ⟨host, isHost, named⟩⟩

theorem exists_isHost_iff {raw : String} :
    (∃ host, IsHost raw host) ↔ ∃ name, IsNamed raw name :=
  ⟨fun ⟨host, isHost⟩ => ⟨_, host, isHost, names_iff.mpr rfl⟩,
    fun ⟨_, host, isHost, _⟩ => ⟨host, isHost⟩⟩

/-- The principal that a text of hosts leads to. -/
theorem bootstrapPrincipal_splitBrokers {raw principal : String} :
    bootstrapPrincipal (splitBrokers raw) = .ok principal ↔
      ∃ domain : String, principal = "User:CN=*." ++ domain ∧ (∃ host, IsHost raw host) ∧
        ∀ host, IsHost raw host → LiesIn domain.toList host := by
  simp only [bootstrapPrincipal_eq_ok_iff, ne_eq, splitBrokers_eq_nil_iff, not_not,
    forall_brokerDomain_iff]

/-- **The principal is the wildcard over the one domain in which all hosts lie.** Without hosts it
is missing for now, and if there is no such domain it is refused. It depends on the names of the
hosts alone, whatever their order, repetition and ports. -/
theorem principal_of_hosts (raw : String) :
    (∀ principal, bootstrapPrincipal (splitBrokers raw) = .ok principal ↔
        ∃ domain : String, principal = "User:CN=*." ++ domain ∧ (∃ host, IsHost raw host) ∧
          ∀ host, IsHost raw host → LiesIn domain.toList host) ∧
      ((∃ failure, bootstrapPrincipal (splitBrokers raw) = .error failure ∧
          failure.kind = .transient) ↔ ¬ ∃ host, IsHost raw host) ∧
      ((∃ failure, bootstrapPrincipal (splitBrokers raw) = .error failure ∧
          failure.kind = .validation) ↔
        (∃ host, IsHost raw host) ∧
          ¬ ∃ domain : String, ∀ host, IsHost raw host → LiesIn domain.toList host) ∧
      ∀ other, (∀ name, IsNamed raw name ↔ IsNamed other name) → ∀ principal,
        bootstrapPrincipal (splitBrokers raw) = .ok principal ↔
          bootstrapPrincipal (splitBrokers other) = .ok principal := by
  refine ⟨fun _ => bootstrapPrincipal_splitBrokers, ?_, ?_, ?_⟩
  · rw [← splitBrokers_eq_nil_iff]
    constructor
    · rintro ⟨failure, refused, kind⟩
      by_contra something
      rw [kind_of_bootstrapPrincipal refused, if_neg something] at kind
      cases kind
    · intro none
      rw [none]
      exact ⟨_, rfl, rfl⟩
  · constructor
    · rintro ⟨failure, refused, kind⟩
      have some : ∃ host, IsHost raw host := by
        by_contra nobody
        rw [kind_of_bootstrapPrincipal refused, if_pos (splitBrokers_eq_nil_iff.mpr nobody)]
          at kind
        cases kind
      refine ⟨some, fun ⟨domain, lies⟩ => ?_⟩
      rw [bootstrapPrincipal_splitBrokers.mpr ⟨domain, rfl, some, lies⟩] at refused
      cases refused
    · rintro ⟨some, scattered⟩
      cases outcome : bootstrapPrincipal (splitBrokers raw) with
      | ok principal =>
          obtain ⟨domain, -, -, lies⟩ := bootstrapPrincipal_splitBrokers.mp outcome
          exact absurd ⟨domain, lies⟩ scattered
      | error failure =>
          refine ⟨failure, rfl, ?_⟩
          rw [kind_of_bootstrapPrincipal outcome,
            if_neg fun none => splitBrokers_eq_nil_iff.mp none some]
  · intro other same principal
    simp only [bootstrapPrincipal_splitBrokers, forall_liesIn_iff, exists_isHost_iff, same]

/-- Two brokers, the second of them twice and with blanks, ports and empty items. -/
theorem principal_of_hosts_ports :
    (∀ name, IsNamed "b-1.kafka.example.com:9094,b-2.kafka.example.com" name ↔
        IsNamed " b-2.kafka.example.com: ,,b-1.kafka.example.com:80,b-2.kafka.example.com" name) ∧
      bootstrapPrincipal (splitBrokers "b-1.kafka.example.com:9094,b-2.kafka.example.com") =
        .ok "User:CN=*.kafka.example.com" ∧
      bootstrapPrincipal (splitBrokers
          " b-2.kafka.example.com: ,,b-1.kafka.example.com:80,b-2.kafka.example.com") =
        .ok "User:CN=*.kafka.example.com" := by
  obtain ⟨-, -, -, alike⟩ := principal_of_hosts "b-1.kafka.example.com:9094,b-2.kafka.example.com"
  have same : ∀ name, IsNamed "b-1.kafka.example.com:9094,b-2.kafka.example.com" name ↔
      IsNamed " b-2.kafka.example.com: ,,b-1.kafka.example.com:80,b-2.kafka.example.com" name := by
    intro name
    have first : (splitBrokers "b-1.kafka.example.com:9094,b-2.kafka.example.com").map
        (fun broker => withoutPort broker.toList) =
          ["b-1.kafka.example.com".toList, "b-2.kafka.example.com".toList] := by decide
    have second : (splitBrokers
        " b-2.kafka.example.com: ,,b-1.kafka.example.com:80,b-2.kafka.example.com").map
        (fun broker => withoutPort broker.toList) =
          ["b-2.kafka.example.com".toList, "b-1.kafka.example.com".toList,
            "b-2.kafka.example.com".toList] := by decide
    rw [isNamed_iff, isNamed_iff, first, second]
    simp only [List.mem_cons, List.not_mem_nil, or_false]
    constructor
    · rintro (one | two)
      · exact .inr (.inl one)
      · exact .inl two
    · rintro (two | one | two)
      · exact .inr two
      · exact .inl one
      · exact .inr two
  have found : bootstrapPrincipal (splitBrokers
      "b-1.kafka.example.com:9094,b-2.kafka.example.com") = .ok "User:CN=*.kafka.example.com" := by
    refine bootstrapPrincipal_eq_ok_iff.mpr ⟨"kafka.example.com", by decide, by decide, ?_⟩
    have brokers : splitBrokers "b-1.kafka.example.com:9094,b-2.kafka.example.com" =
        ["b-1.kafka.example.com:9094", "b-2.kafka.example.com"] := by decide
    rw [brokers]
    exact List.forall_mem_cons.mpr ⟨rfl, List.forall_mem_singleton.mpr rfl⟩
  exact ⟨same, found, (alike _ same _).mp found⟩

end Provision.Session
