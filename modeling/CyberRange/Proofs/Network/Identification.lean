import CyberRange.Proofs.Network.LongestKey

namespace CyberRange.Hosts

/-! Which host a scan tells about.

A query names a host by its address or by a part of its key, and the first host in order
that it names is reported.  So under its own address and its own key a host is found exactly
if no key in front of it holds that text, while a fetch by the key is answered by the host
in any case. -/

variable {hosts front back : Hosts} {entry : String × Target} {key query : String}
  {target : Target}

/-- Whether a text stands somewhere in another one. -/
def Within (part whole : String) : Prop :=
  part.toList <:+: whole.toList

theorem occursIn_iff {part whole : List Char} :
    Text.occursIn part whole = true ↔ part <:+: whole := by
  induction whole with
  | nil => rw [Text.occursIn, List.isEmpty_iff, List.infix_nil]
  | cons first rest induction =>
      rw [Text.occursIn, Bool.or_eq_true, List.isPrefixOf_iff_prefix, induction,
        List.infix_cons_iff]

instance (part whole : String) : Decidable (Within part whole) :=
  decidable_of_iff _ occursIn_iff

/-- What a scan tells about a host that it has found. -/
def report (target : Target) : ScanResult :=
  { ip := some target.ip,
    ports := target.ports.map fun port => { port, state := "open", service := serviceOf port },
    os := some "Linux 5.4.0-42-generic", error := none }

/-- Every host has a key and an address, both its own, and none is taken for the other. -/
structure Identified (hosts : Hosts) : Prop where
  keyed : (Entries.keys hosts).Nodup
  filled : "" ∉ Entries.keys hosts
  addressed : "" ∉ hosts.map fun entry => entry.2.ip
  apart : (hosts.map fun entry => entry.2.ip).Nodup
  separate : ∀ entry ∈ hosts, entry.2.ip ∉ Entries.keys hosts

theorem matchesQuery_iff :
    matchesQuery query key target = true ↔ target.ip = query ∨ Within query key := by
  rw [matchesQuery, Bool.or_eq_true, beq_iff_eq, occursIn_iff, Within]

theorem search_eq (filled : query ≠ "") (hosts : Hosts) :
    hosts.search query =
      (hosts.find? fun entry => matchesQuery query entry.1 entry.2).map Prod.snd :=
  if_neg filled

/-- The first host that a query names is reported. -/
theorem scan_of_first (filled : query ≠ "")
    (named : target.ip = query ∨ Within query key)
    (passed : ∀ entry ∈ front, ¬ (entry.2.ip = query ∨ Within query entry.1)) :
    scan (front ++ (key, target) :: back) query = report target := by
  have none_before : front.find? (fun entry => matchesQuery query entry.1 entry.2) = none :=
    List.find?_eq_none.mpr fun entry member found =>
      passed entry member (matchesQuery_iff.mp found)
  have here : (fun entry : String × Target => matchesQuery query entry.1 entry.2) (key, target) :=
    matchesQuery_iff.mpr named
  have found : search (front ++ (key, target) :: back) query = some target := by
    rw [search_eq filled, List.find?_append, none_before, Option.none_or]
    exact congrArg (Option.map Prod.snd) (List.find?_cons_of_pos here)
  rw [scan, found]
  rfl

namespace Identified

theorem ip_ne_of_front (identified : (front ++ (key, target) :: back).Identified)
    (member : entry ∈ front) : entry.2.ip ≠ target.ip := by
  intro same
  have apart := identified.apart
  rw [List.map_append, List.map_cons, List.nodup_append] at apart
  exact apart.2.2 _ (List.mem_map_of_mem member) _ List.mem_cons_self same

/-- A host in front of another one is named by the other's address or key only through a
key that holds it. -/
theorem named_iff_within (identified : (front ++ (key, target) :: back).Identified)
    (own : query = target.ip ∨ query = key) (member : entry ∈ front) :
    (entry.2.ip = query ∨ Within query entry.1) ↔ Within query entry.1 := by
  refine ⟨fun named => named.resolve_left fun same => ?_, .inr⟩
  rcases own with rfl | rfl
  · exact identified.ip_ne_of_front member same
  · refine identified.separate entry (List.mem_append_left _ member) ?_
    rw [same]
    simp [Entries.keys]

theorem ne_empty (identified : (front ++ (key, target) :: back).Identified)
    (own : query = target.ip ∨ query = key) : query ≠ "" := by
  rintro rfl
  rcases own with bare | bare
  · refine identified.addressed ?_
    rw [bare]
    simp
  · refine identified.filled ?_
    rw [bare]
    simp [Entries.keys]

theorem named_self (own : query = target.ip ∨ query = key) :
    target.ip = query ∨ Within query key := by
  rcases own with rfl | rfl
  · exact .inl rfl
  · exact .inr List.infix_rfl

end Identified

/-- If a key holds a text, there is a first one that does. -/
theorem exists_first_within (held : ∃ earlier ∈ Entries.keys front, Within query earlier) :
    ∃ passed earlier other between, front = passed ++ (earlier, other) :: between ∧
      Within query earlier ∧ ∀ key ∈ Entries.keys passed, ¬ Within query key := by
  obtain ⟨earlier, member, within⟩ := held
  obtain ⟨entry, there, rfl⟩ := List.mem_map.mp member
  have some : (front.find? fun entry => decide (Within query entry.1)).isSome :=
    List.find?_isSome.mpr ⟨entry, there, by simpa using within⟩
  obtain ⟨first, found⟩ := Option.isSome_iff_exists.mp some
  obtain ⟨within, passed, between, split, clear⟩ := List.find?_eq_some_iff_append.mp found
  refine ⟨passed, first.1, first.2, between, split, of_decide_eq_true within, fun key member => ?_⟩
  obtain ⟨skipped, before, rfl⟩ := List.mem_map.mp member
  simpa using clear skipped before

/-- What stands under a key or an address of its own is what a scan by it reports, unless a
key in front holds that text; the first host with such a key is reported then.  A fetch by
the key is always answered by the host itself. -/
theorem scan_own_name (identified : hosts.Identified)
    (placed : hosts = front ++ (key, target) :: back) :
    (∀ query, query = target.ip ∨ query = key →
      (hosts.scan query = report target ↔ ∀ earlier ∈ Entries.keys front, ¬ Within query earlier) ∧
        ∀ passed earlier other between, front = passed ++ (earlier, other) :: between →
          Within query earlier → (∀ key ∈ Entries.keys passed, ¬ Within query key) →
          hosts.scan query = report other) ∧
      (hosts.answer key).host = some key := by
  subst placed
  have shadowed {query : String} (own : query = target.ip ∨ query = key) :
      ∀ passed earlier other between, front = passed ++ (earlier, other) :: between →
        Within query earlier → (∀ key ∈ Entries.keys passed, ¬ Within query key) →
        scan (front ++ (key, target) :: back) query = report other := by
    rintro passed earlier other between rfl within clear
    have filled := identified.ne_empty own
    rw [List.append_assoc, List.cons_append]
    refine scan_of_first filled (.inr within) fun entry member named => ?_
    rw [identified.named_iff_within own (List.mem_append_left _ member)] at named
    exact clear entry.1 (List.mem_map_of_mem member) named
  refine ⟨fun query own => ⟨⟨fun reported => ?_, fun clear => ?_⟩, shadowed own⟩, ?_⟩
  · by_contra held
    push Not at held
    obtain ⟨passed, earlier, other, between, split, within, clear⟩ := exists_first_within held
    have shown := shadowed own passed earlier other between split within clear
    have same : other.ip = target.ip :=
      Option.some.inj (congrArg ScanResult.ip (shown.symm.trans reported))
    have member : (earlier, other) ∈ front := by simp [split]
    exact identified.ip_ne_of_front member same
  · refine scan_of_first (identified.ne_empty own) (Identified.named_self own)
      fun entry member named => ?_
    rw [identified.named_iff_within own member] at named
    exact clear entry.1 (List.mem_map_of_mem member) named
  · rw [host_answer]
    exact hostOf_self (by simp [Entries.keys])

/-- The longer keys stand behind the host whose key and address they hold, and the key in
front holds neither. -/
theorem scan_own_name_before_longer :
    let host (ip : String) (ports : List Int) : Target :=
      { ip, ports, vulnerabilities := [], endpoints := [] }
    let hosts : Hosts :=
      [("http://10.0.0", host "10.0.0.3" [80]), ("http://10.0.0.2", host "10.0.0.2" [22, 4444]),
        ("http://10.0.0.2:8080", host "10.0.0.1" [8080])]
    hosts.Identified ∧ hosts.scan "http://10.0.0.2" = report (host "10.0.0.2" [22, 4444]) ∧
      hosts.scan "10.0.0.2" = report (host "10.0.0.2" [22, 4444]) ∧
      (hosts.answer "http://10.0.0.2").host = some "http://10.0.0.2" := by
  intro host hosts
  have identified : hosts.Identified :=
    ⟨by decide, by decide, by decide, by decide, by decide⟩
  have placed : hosts = [("http://10.0.0", host "10.0.0.3" [80])] ++
      ("http://10.0.0.2", host "10.0.0.2" [22, 4444]) ::
        [("http://10.0.0.2:8080", host "10.0.0.1" [8080])] := rfl
  obtain ⟨scans, answered⟩ := scan_own_name identified placed
  exact ⟨identified, (scans "http://10.0.0.2" (.inr rfl)).1.mpr (by decide),
    (scans "10.0.0.2" (.inl rfl)).1.mpr (by decide), answered⟩

/-- With the longer key in front, neither its key nor its address finds the host, though a
fetch by the key does. -/
theorem own_name_shadowed_by_longer :
    let host (ip : String) (ports : List Int) : Target :=
      { ip, ports, vulnerabilities := [], endpoints := [] }
    let hosts : Hosts :=
      [("http://10.0.0.2:8080", host "10.0.0.1" [8080]),
        ("http://10.0.0.2", host "10.0.0.2" [22, 4444])]
    hosts.Identified ∧
      Entries.get? "http://10.0.0.2" hosts = some (host "10.0.0.2" [22, 4444]) ∧
      hosts.scan "http://10.0.0.2" ≠ report (host "10.0.0.2" [22, 4444]) ∧
      hosts.scan "10.0.0.2" ≠ report (host "10.0.0.2" [22, 4444]) ∧
      (hosts.answer "http://10.0.0.2").host = some "http://10.0.0.2" := by
  intro host hosts
  exact ⟨⟨by decide, by decide, by decide, by decide, by decide⟩, rfl, by decide +kernel,
    by decide +kernel, by decide +kernel⟩

end CyberRange.Hosts
