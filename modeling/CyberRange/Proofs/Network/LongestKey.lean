import CyberRange.Network.Latency
import Mathlib.Data.List.Perm.Basic

namespace CyberRange

/-! Fetching goes by keys as a set: the longest key that a URL starts with answers it,
wherever the key stands among the hosts, and what is behind the key is looked up as it is. -/

namespace Hosts

variable {hosts others : Hosts} {keys : List String} {best : Option String} {key url : String}

def Starts (key url : String) : Prop :=
  key.toList <+: url.toList

instance (key url : String) : Decidable (Starts key url) :=
  inferInstanceAs (Decidable (_ <+: _))

theorem startsWith_iff : Text.startsWith url key = true ↔ Starts key url :=
  List.isPrefixOf_iff_prefix

theorem starts_append (key rest : String) : Starts key (key ++ rest) := by
  rw [Starts, String.toList_append]
  exact List.prefix_append ..

theorem length_of_starts (starts : Starts key url) : key.length ≤ url.length := by
  rw [← String.length_toList, ← String.length_toList]
  exact starts.length_le

/-- Starts of one URL that are equally long are the same. -/
theorem Starts.eq_of_length {other : String} (starts : Starts key url) (too : Starts other url)
    (same : key.length = other.length) : key = other := by
  rw [← String.length_toList, ← String.length_toList] at same
  have inside := List.prefix_of_prefix_length_le starts too (Nat.le_of_eq same)
  exact String.toList_inj.mp (inside.eq_of_length same)

/-- Of the best so far and one more key one is chosen, and neither is longer. -/
theorem exists_longer (best : Option String) (key : String) :
    ∃ chosen, longer best key = some chosen ∧ (best = some chosen ∨ chosen = key) ∧
      (∀ found, best = some found → found.length ≤ chosen.length) ∧
      key.length ≤ chosen.length := by
  cases best with
  | none => exact ⟨key, rfl, .inr rfl, fun _ held => (nomatch held), Nat.le_refl _⟩
  | some found =>
      by_cases shorter : found.length < key.length
      · refine ⟨key, if_pos shorter, .inr rfl, fun other held => ?_, Nat.le_refl _⟩
        rw [← Option.some.inj held]
        exact Nat.le_of_lt shorter
      · refine ⟨found, if_neg shorter, .inl rfl, fun other held => ?_, Nat.not_lt.mp shorter⟩
        obtain rfl : found = other := Option.some.inj held
        exact Nat.le_refl _

theorem foldl_longer_eq_none_iff :
    keys.foldl longer best = none ↔ best = none ∧ keys = [] := by
  induction keys generalizing best with
  | nil => simp
  | cons first rest induction =>
      obtain ⟨chosen, next, -⟩ := exists_longer best first
      rw [List.foldl_cons, induction, next]
      simp

/-- What is chosen in the end is the best so far or one of the keys, and none is longer. -/
theorem of_foldl_longer (chosen : keys.foldl longer best = some key) :
    (best = some key ∨ key ∈ keys) ∧ (∀ found, best = some found → found.length ≤ key.length) ∧
      ∀ other ∈ keys, other.length ≤ key.length := by
  induction keys generalizing best with
  | nil =>
      rw [List.foldl_nil] at chosen
      refine ⟨.inl chosen, fun found held => ?_, fun _ member => (nomatch member)⟩
      obtain rfl : key = found := Option.some.inj (chosen.symm.trans held)
      exact Nat.le_refl _
  | cons first rest induction =>
      obtain ⟨next, chosen_next, origin, best_le, first_le⟩ := exists_longer best first
      rw [List.foldl_cons, chosen_next] at chosen
      obtain ⟨last, next_le, rest_le⟩ := induction chosen
      have next_le := next_le next rfl
      refine ⟨?_, fun found held => Nat.le_trans (best_le found held) next_le,
        List.forall_mem_cons.mpr ⟨Nat.le_trans first_le next_le, rest_le⟩⟩
      rcases last with same | there
      · rw [← Option.some.inj same, List.mem_cons]
        exact origin.imp_right .inl
      · exact .inr (List.mem_cons_of_mem _ there)

theorem hostOf_eq_none_iff :
    hosts.hostOf url = none ↔ ∀ key ∈ Entries.keys hosts, ¬ Starts key url := by
  rw [hostOf, foldl_longer_eq_none_iff, List.filter_eq_nil_iff]
  simp [startsWith_iff]

/-- The host of a URL is its longest start among the keys; there is only one. -/
theorem hostOf_eq_some_iff :
    hosts.hostOf url = some key ↔ key ∈ Entries.keys hosts ∧ Starts key url ∧
      ∀ other ∈ Entries.keys hosts, key.length < other.length → ¬ Starts other url := by
  have of_chosen {key : String} (chosen : hosts.hostOf url = some key) :
      key ∈ Entries.keys hosts ∧ Starts key url ∧
        ∀ other ∈ Entries.keys hosts, Starts other url → other.length ≤ key.length := by
    obtain ⟨origin, -, longest⟩ := of_foldl_longer chosen
    have member := origin.resolve_left (Option.some_ne_none key).symm
    obtain ⟨registered, starts⟩ := List.mem_filter.mp member
    exact ⟨registered, startsWith_iff.mp starts, fun other there starts =>
      longest other (List.mem_filter.mpr ⟨there, startsWith_iff.mpr starts⟩)⟩
  constructor
  · intro chosen
    obtain ⟨registered, starts, longest⟩ := of_chosen chosen
    exact ⟨registered, starts, fun other there longer too =>
      Nat.not_lt.mpr (longest other there too) longer⟩
  · rintro ⟨registered, starts, longest⟩
    cases chosen : hosts.hostOf url with
    | none => exact absurd starts (hostOf_eq_none_iff.mp chosen key registered)
    | some found =>
        obtain ⟨found_registered, found_starts, found_longest⟩ := of_chosen chosen
        have atLeast := found_longest key registered starts
        have atMost : found.length ≤ key.length := by
          by_contra longer
          exact longest found found_registered (Nat.not_le.mp longer) found_starts
        rw [found_starts.eq_of_length starts (Nat.le_antisymm atMost atLeast)]

theorem hostOf_congr (same : ∀ key, key ∈ Entries.keys hosts ↔ key ∈ Entries.keys others)
    (url : String) : hosts.hostOf url = others.hostOf url := by
  cases chosen : others.hostOf url with
  | none =>
      rw [hostOf_eq_none_iff] at chosen ⊢
      exact fun key registered => chosen key ((same key).mp registered)
  | some key =>
      rw [hostOf_eq_some_iff] at chosen ⊢
      obtain ⟨registered, starts, longest⟩ := chosen
      exact ⟨(same key).mpr registered, starts, fun other there =>
        longest other ((same other).mp there)⟩

theorem endpointOf_append {path : String} (key : String) (filled : path ≠ "") :
    endpointOf (key ++ path) key = path := by
  have behind : (key ++ path).toList.drop key.length = path.toList := by
    rw [String.toList_append, ← String.length_toList, List.drop_left]
  have some : path.toList.isEmpty = false := by
    rw [List.isEmpty_eq_false_iff]
    exact fun none => filled (String.toList_eq_nil_iff.mp none)
  rw [endpointOf, behind, some, String.ofList_toList]
  rfl

theorem endpointOf_self (key : String) : endpointOf key key = "/" := by
  have behind : key.toList.drop key.length = [] := by
    rw [← String.length_toList, List.drop_length]
  rw [endpointOf, behind]
  rfl

/-- A key is the host of itself, whatever longer keys there are. -/
theorem hostOf_self (registered : key ∈ Entries.keys hosts) : hosts.hostOf key = some key := by
  refine hostOf_eq_some_iff.mpr ⟨registered, List.prefix_refl _, fun other _ longer too => ?_⟩
  exact Nat.not_lt.mpr (length_of_starts too) longer

theorem host_answer (hosts : Hosts) (url : String) : (hosts.answer url).host = hosts.hostOf url := by
  rw [answer]
  split
  · rename_i missed
    exact missed.symm
  · rename_i key chosen
    split <;> exact chosen.symm

/-- A host that has a page behind its key shows it. -/
theorem answer_of_page {body : String} {target : Target} (chosen : hosts.hostOf url = some key)
    (held : Entries.get? key hosts = some target)
    (page : Entries.get? (endpointOf url key) target.endpoints = some body) :
    (hosts.answer url).status = 200 ∧ (hosts.answer url).data = body := by
  simp only [answer, chosen, held, Option.bind_some, page, and_self]

/-- Only a page of the host is shown as one. -/
theorem of_status_answer (shown : (hosts.answer url).status = 200) :
    ∃ key target, (hosts.answer url).host = some key ∧ Entries.get? key hosts = some target ∧
      Entries.get? (endpointOf url key) target.endpoints = some (hosts.answer url).data := by
  rw [answer] at shown ⊢
  split at shown
  · exact absurd shown (by decide)
  · rename_i key chosen
    split at shown
    · rename_i body found
      obtain ⟨target, held, page⟩ := Option.bind_eq_some_iff.mp found
      exact ⟨key, target, rfl, held, page⟩
    · simp at shown

theorem answer_congr (keyed : (Entries.keys others).Nodup) (reordered : hosts.Perm others)
    (url : String) : hosts.answer url = others.answer url := by
  have same (key : String) : Entries.get? key hosts = Entries.get? key others :=
    Entries.get?_of_perm keyed reordered key
  have chosen : hosts.hostOf url = others.hostOf url :=
    hostOf_congr (fun key => (reordered.map Prod.fst).mem_iff) url
  simp only [answer, chosen, same]

end Hosts

namespace Network

/-- A fetch is answered by the longest key that the URL starts with, once it has waited. -/
structure AnswersByLongestKey (network : Network) : Prop where
  fetched : ∀ url, (network.fetch url).1 =
    if network.latency.isDrawable then .ok (network.hosts.answer url) else .error .tooLarge
  unordered : ∀ hosts : Hosts, hosts.Perm network.hosts → ∀ url,
    ({ network with hosts }.fetch url).1 = (network.fetch url).1 ∧
      hosts.answer url = network.hosts.answer url
  missed : ∀ url, (network.hosts.answer url).host = none ↔
    ∀ key ∈ Entries.keys network.hosts, ¬ Hosts.Starts key url
  reached : ∀ key target path body, Entries.get? key network.hosts = some target → path ≠ "" →
    Entries.get? path target.endpoints = some body →
    ((network.hosts.answer (key ++ path)).host = some key ↔
      ∀ other ∈ Entries.keys network.hosts, key.length < other.length →
        ¬ Hosts.Starts other (key ++ path)) ∧
    ((network.hosts.answer (key ++ path)).host = some key →
      (network.hosts.answer (key ++ path)).status = 200 ∧
        (network.hosts.answer (key ++ path)).data = body)
  registered : ∀ url, (network.hosts.answer url).status = 200 → ∃ key target,
    (network.hosts.answer url).host = some key ∧ Entries.get? key network.hosts = some target ∧
      Entries.get? (Hosts.endpointOf url key) target.endpoints =
        some (network.hosts.answer url).data
  bare : ∀ key ∈ Entries.keys network.hosts,
    (∀ other ∈ Entries.keys network.hosts, key.length < other.length →
      ¬ Hosts.Starts other (key ++ "/")) →
    network.hosts.answer key = network.hosts.answer (key ++ "/")

theorem fetch_eq_ite (network : Network) (url : String) :
    (network.fetch url).1 =
      if network.latency.isDrawable then .ok (network.hosts.answer url)
      else .error .tooLarge := by
  cases drawable : network.latency.isDrawable with
  | true => rw [fetch_eq, (draw_of_drawable drawable).1]; rfl
  | false => rw [fetch_eq, draw_of_not_drawable drawable]; rfl

theorem answersByLongestKey (network : Network) (keyed : (Entries.keys network.hosts).Nodup) :
    network.AnswersByLongestKey where
  fetched := network.fetch_eq_ite
  unordered hosts reordered url := by
    have same := Hosts.answer_congr keyed reordered url
    refine ⟨?_, same⟩
    rw [fetch_eq_ite, fetch_eq_ite, same]
  missed url := by rw [Hosts.host_answer, Hosts.hostOf_eq_none_iff]
  reached key target path body held filled page := by
    rw [Hosts.host_answer]
    refine ⟨?_, fun chosen => Hosts.answer_of_page chosen held ?_⟩
    · rw [Hosts.hostOf_eq_some_iff]
      exact ⟨fun chosen => chosen.2.2,
        fun longest => ⟨Entries.mem_keys_of_get? held, Hosts.starts_append key path, longest⟩⟩
    · rw [Hosts.endpointOf_append key filled]
      exact page
  registered url shown := Hosts.of_status_answer shown
  bare key registered longest := by
    have slashed : network.hosts.hostOf (key ++ "/") = some key :=
      Hosts.hostOf_eq_some_iff.mpr ⟨registered, Hosts.starts_append key "/", longest⟩
    simp only [Hosts.answer, Hosts.hostOf_self registered, slashed, Hosts.endpointOf_self,
      Hosts.endpointOf_append key (by decide : "/" ≠ "")]

/-- Of keys that start one another, the empty one among them, the longest answers: not the
page that the shorter key has for the rest, but the empty page of its own. -/
theorem answersByLongestKey_of_nested :
    let host (endpoints : Entries String) : Target :=
      { ip := "10.0.0.1", ports := [], vulnerabilities := [], endpoints }
    let network := create
      [("http://lab", host [("/", "front"), (":1/", "never")]), ("", host [("x", "")]),
        ("http://lab:1", host [("/", "")])] .instant (.constant 0.5)
    (Entries.keys network.hosts).Nodup ∧ network.AnswersByLongestKey ∧
      ∃ response, (network.fetch "http://lab:1").1 = .ok response ∧
        (network.fetch "http://lab:1/").1 = .ok response ∧
        response.host = some "http://lab:1" ∧ response.status = 200 ∧ response.data = "" := by
  intro host network
  have keyed : (Entries.keys network.hosts).Nodup := by decide
  have answers := answersByLongestKey network keyed
  obtain ⟨chosen, shown⟩ := answers.reached "http://lab:1" _ "/" "" rfl (by decide) rfl
  have answered := chosen.mpr (by decide)
  have drawable : network.latency.isDrawable = true := by decide +kernel
  have same := answers.bare "http://lab:1" (by decide) (by decide)
  refine ⟨keyed, answers, _, ?_, ?_, answered, shown answered⟩
  · rw [answers.fetched, if_pos drawable, same]
  · rw [answers.fetched, if_pos drawable]
    rfl

end Network

end CyberRange
