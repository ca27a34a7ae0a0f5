import CyberRange.Proofs.Shell.Effects
import CyberRange.Proofs.Text.Joining

namespace CyberRange

/-! How the arguments of `curl` are taken, and what it prints.

The arguments are read one by one, but only three things about them matter: the first
option that is not known, whether the head of the answer is wanted, and the addresses, and
of these only whether there is one.
-/

namespace Download

variable {words others : List String} {word : String}

/-- The options that are known. -/
def flags : List String := ["-i", "--include", "-s", "--silent"]

/-- Those of them that ask for the head of the answer. -/
def headerFlags : List String := ["-i", "--include"]

def isUnknown (word : String) : Bool :=
  Text.startsWith word "-" && decide (word ∉ flags)

def isUrl (word : String) : Bool :=
  !Text.startsWith word "-"

def wantsHeaders (words : List String) : Bool :=
  words.any fun word => decide (word ∈ headerFlags)

theorem classify_cases (word : String) :
    (classify word = .showHeaders ∧ word ∈ headerFlags ∧ isUnknown word = false ∧
        isUrl word = false) ∨
      (classify word = .silent ∧ word ∉ headerFlags ∧ isUnknown word = false ∧
        isUrl word = false) ∨
      (classify word = .unknown ∧ isUnknown word = true) ∨
      (classify word = .url ∧ word ∉ headerFlags ∧ isUnknown word = false ∧
        isUrl word = true) := by
  by_cases header : word = "-i" ∨ word = "--include"
  · rcases header with rfl | rfl <;> decide
  · by_cases silent : word = "-s" ∨ word = "--silent"
    · rcases silent with rfl | rfl <;> decide
    · have bare : word ∉ headerFlags := by simpa [headerFlags] using header
      have strange : word ∉ flags := by
        rw [not_or] at header silent
        simp [flags, header, silent]
      cases option : Text.startsWith word "-" <;>
        simp [classify, header, silent, isUnknown, isUrl, option, strange, bare]

/-- The first option that is not known is the end of reading; if there is none, the
addresses are left, in order. -/
theorem readArguments_eq (words : List String) :
    readArguments words =
      match words.find? isUnknown with
      | some first => .error first
      | none => .ok (wantsHeaders words, words.filter isUrl) := by
  induction words with
  | nil => rfl
  | cons word rest induction =>
      rcases classify_cases word with
        ⟨kind, wanted, known, option⟩ | ⟨kind, wanted, known, option⟩ | ⟨kind, unknown⟩ |
          ⟨kind, wanted, known, url⟩
      · simp only [readArguments, kind, induction, List.find?_cons, known]
        cases rest.find? isUnknown <;> simp [Except.map, wantsHeaders, wanted, option]
      · simp only [readArguments, kind, induction, List.find?_cons, known]
        simp [wantsHeaders, wanted, option]
      · simp only [readArguments, kind, List.find?_cons, unknown]
      · simp only [readArguments, kind, induction, List.find?_cons, known]
        cases rest.find? isUnknown <;> simp [Except.map, wantsHeaders, wanted, url]

theorem bare_of_isUrl (url : isUrl word = true) : word ∉ headerFlags := by
  rcases classify_cases word with
    ⟨-, -, -, option⟩ | ⟨-, bare, -, -⟩ | ⟨-, unknown⟩ | ⟨-, bare, -, -⟩
  · exact absurd (option.symm.trans url) Bool.false_ne_true
  · exact bare
  · intro wanted
    have known : word ∈ flags := List.mem_of_mem_take (i := 2) wanted
    simp [isUnknown, known] at unknown
  · exact bare

theorem of_mem_flags (known : word ∈ flags) : isUnknown word = false ∧ isUrl word = false := by
  simp only [flags, List.mem_cons, List.not_mem_nil, or_false] at known
  rcases known with rfl | rfl | rfl | rfl <;> decide

/-- The arguments without the flags that ask for the head of the answer. -/
def withoutHeaders (words : List String) : List String :=
  words.filter fun word => decide (word ∉ headerFlags)

theorem find?_withoutHeaders (known : words.find? isUnknown = none) :
    (withoutHeaders words).find? isUnknown = none := by
  rw [List.find?_eq_none] at known ⊢
  exact fun word member => known word (List.mem_of_mem_filter member)

theorem filter_withoutHeaders (words : List String) :
    (withoutHeaders words).filter isUrl = words.filter isUrl := by
  rw [withoutHeaders, List.filter_filter]
  refine List.filter_congr fun word _ => ?_
  cases url : isUrl word with
  | false => rfl
  | true => simpa using bare_of_isUrl url

theorem wantsHeaders_withoutHeaders (words : List String) :
    wantsHeaders (withoutHeaders words) = false := by
  simp [wantsHeaders, withoutHeaders]

end Download

namespace Report

variable {response : NetworkResponse} {hosts : Hosts} {url line : String}

/-- No line of a head is empty or goes on in the next line. -/
theorem headerLines_answer (hosts : Hosts) (url : String) :
    ∀ line ∈ headerLines (hosts.answer url), line ≠ "" ∧ '\n' ∉ line.toList := by
  -- The head does not hang on the page, and there are only three of them.
  have clean : ∀ head ∈
      [headerLines ⟨404, "Not Found", "", [], none⟩,
        headerLines ⟨200, "OK", "",
          [("Content-Type", "text/html"), ("Server", "Apache/2.4.41")], none⟩,
        headerLines ⟨404, "Not Found", "", [("Content-Type", "text/html")], none⟩],
      ∀ line ∈ head, line ≠ "" ∧ '\n' ∉ line.toList := by decide
  rw [Hosts.answer]
  split
  · exact clean _ (.head _)
  · split
    · exact clean _ (.tail _ (.head _))
    · exact clean _ (.tail _ (.tail _ (.head _)))

theorem cutAtEmptyLine_download (hosts : Hosts) (url : String) :
    Text.cutAtEmptyLine (download true (hosts.answer url)) =
      some (headerLines (hosts.answer url), (hosts.answer url).data) := by
  rw [download, if_pos rfl]
  exact Text.cutAtEmptyLine_append (List.cons_ne_nil _ _)
    (fun line member => (headerLines_answer hosts url line member).1)
    (fun line member => (headerLines_answer hosts url line member).2) _

end Report

namespace Processor

open Download

variable {words others : List String} {first url flag : String} {processor : Processor}

/-- What comes of `curl` once the page is there, and the processor behind it. -/
def curl (words : List String) (processor : Processor) : Ending × Processor :=
  ((caught (processor.fetch words).1).map fun reached =>
      reached.result (processor.fetch words).2.network.hosts,
    (processor.fetch words).2)

theorem execute_curl {line : String} (typed : Text.words line = "curl" :: words)
    (now : Timestamp) (processor : Processor) :
    processor.execute now line = (processor.record line).curl words := by
  simp only [execute, start, typed]
  rfl

theorem curl_of_unknown (found : words.find? isUnknown = some first) (processor : Processor) :
    processor.curl words = (.ok (.error (Refusal.unknownOption first).message), processor) := by
  simp only [curl, fetch, ofArguments, readArguments_eq, found]
  rfl

/-- What comes of a page that has been asked for: the drawing of its delay can fail. -/
def pageEnding (hosts : Hosts) (download : Download) : Except DelayFault Unit → Ending
  | .ok () => .ok (finish hosts download)
  | .error fault => .ok (.error fault.message)

theorem curl_of_known (known : words.find? isUnknown = none) (processor : Processor) :
    processor.curl words =
      match words.filter isUrl with
      | [] => (.ok (.error Refusal.noUrl.message), processor)
      | [url] =>
          (pageEnding processor.network.hosts { url, withHeaders := wantsHeaders words }
              processor.network.draw.1,
            { processor with network := (processor.network.fetch url).2 })
      | _ :: _ :: _ => (.ok (.error Refusal.manyUrls.message), processor) := by
  have kept := (kept_fetch words processor).hosts
  rw [curl, kept, fetch, ofArguments, readArguments_eq, known]
  rcases words.filter isUrl with - | ⟨url, - | ⟨second, rest⟩⟩
  · rfl
  · simp only [Network.fetch_eq]
    rcases processor.network.draw with ⟨fault | drawn, later⟩
    · cases fault
      rfl
    · rfl
  · rfl

theorem curl_of_many (known : words.find? isUnknown = none)
    (many : 1 < (words.filter isUrl).length) (processor : Processor) :
    processor.curl words = (.ok (.error Refusal.manyUrls.message), processor) := by
  rw [curl_of_known known]
  split
  · rename_i none
    simp [none] at many
  · rename_i url single
    simp [single] at many
  · rfl

/-- The order of the addresses does not matter, nor that of flags or how often one stands
there. -/
theorem curl_congr (unknown : others.find? isUnknown = words.find? isUnknown)
    (headers : wantsHeaders others = wantsHeaders words)
    (urls : (others.filter isUrl).Perm (words.filter isUrl)) (processor : Processor) :
    processor.curl others = processor.curl words := by
  cases found : words.find? isUnknown with
  | some first => rw [curl_of_unknown found, curl_of_unknown (unknown.trans found)]
  | none =>
      have known := unknown.trans found
      have count := urls.length_eq
      rcases given : words.filter isUrl with - | ⟨url, - | ⟨second, rest⟩⟩
      · rw [given] at urls
        rw [curl_of_known found, curl_of_known known, given, urls.eq_nil]
      · rw [given, List.perm_singleton] at urls
        rw [curl_of_known found, curl_of_known known, given, urls, headers]
      · have many : 1 < (words.filter isUrl).length := by simp [given]
        rw [curl_of_many found many, curl_of_many known (count ▸ many)]

/-- One page is fetched and shown, with the head of its answer if that is wanted; `plain` is
what is shown without asking for the head. -/
structure Fetches (url : String) (words : List String) (processor : Processor)
    (result plain : CommandResult) : Prop where
  answered : (processor.curl words).1 = .ok result
  plainly : (processor.curl (withoutHeaders words)).1 = .ok plain
  fetched : (processor.network.fetch url).1 = .ok (processor.network.hosts.answer url)
  after : (processor.curl words).2 =
    { processor with network := (processor.network.fetch url).2 }
  delays : (processor.curl words).2.network.delays.length =
    processor.network.delays.length + if processor.network.latency.high = 0 then 0 else 1
  type : result.type =
    if (processor.network.hosts.answer url).resolved then .success else .error
  page : wantsHeaders words = false →
    result.output = (processor.network.hosts.answer url).data
  bare : plain.type = result.type
  headed : wantsHeaders words = true →
    Text.cutAtEmptyLine result.output =
      some
        (("HTTP/1.1 " ++ toString (processor.network.hosts.answer url).status ++ " " ++
            (processor.network.hosts.answer url).statusText) ::
          (processor.network.hosts.answer url).headers.map fun (name, value) =>
            name ++ ": " ++ value,
          plain.output)

/-- There is no delay for the page, and so no page: the command ends with an error. -/
structure FailsToWait (url : String) (words : List String) (processor : Processor) : Prop where
  answered : (processor.curl words).1 = .ok (.error "int too large to convert to float")
  fetched : (processor.network.fetch url).1 = .error .tooLarge
  after : (processor.curl words).2 =
    { processor with network := (processor.network.fetch url).2 }
  delays : (processor.curl words).2.network.delays = processor.network.delays

theorem fetches_of_known (known : words.find? isUnknown = none)
    (single : words.filter isUrl = [url])
    (drawable : processor.network.latency.isDrawable = true) :
    ∃ result plain, Fetches url words processor result plain := by
  obtain ⟨drawn, delays⟩ := Network.draw_of_drawable drawable
  have asked := curl_of_known known processor
  have plainly := curl_of_known (find?_withoutHeaders known) processor
  rw [single, drawn] at asked
  rw [filter_withoutHeaders, single, wantsHeaders_withoutHeaders, drawn] at plainly
  have typed (withHeaders : Bool) :
      (finish processor.network.hosts { url, withHeaders }).type =
        if (processor.network.hosts.answer url).resolved then .success else .error := by
    unfold finish
    dsimp only
    split <;> rfl
  have shown (withHeaders : Bool) :
      (finish processor.network.hosts { url, withHeaders }).output =
        Report.download withHeaders (processor.network.hosts.answer url) := by
    unfold finish
    dsimp only
    split <;> rfl
  refine ⟨finish processor.network.hosts { url, withHeaders := wantsHeaders words },
    finish processor.network.hosts { url, withHeaders := false }, ?_⟩
  constructor
  case answered => rw [asked]; rfl
  case plainly => rw [plainly]; rfl
  case fetched => rw [Network.fetch_eq, drawn]; rfl
  case after => rw [asked]
  case delays =>
    rw [asked]
    exact delays
  case type => exact typed _
  case page =>
    intro bare
    rw [bare]
    exact shown false
  case bare => rw [typed, typed]
  case headed =>
    intro wanted
    rw [wanted, shown, shown]
    exact Report.cutAtEmptyLine_download processor.network.hosts url

theorem failsToWait_of_known (known : words.find? isUnknown = none)
    (single : words.filter isUrl = [url])
    (oversized : processor.network.latency.isDrawable = false) :
    FailsToWait url words processor := by
  have drawn := Network.draw_of_not_drawable oversized
  have asked := curl_of_known known processor
  rw [single] at asked
  constructor
  case answered => rw [asked, drawn]; rfl
  case fetched => rw [Network.fetch_eq, drawn]; rfl
  case after => rw [asked]
  case delays => simp only [asked, Network.fetch_eq, drawn]

/-- What becomes of the arguments of `curl`. -/
structure TakesArguments (words : List String) (processor : Processor) : Prop where
  executed : ∀ now line, Text.words line = "curl" :: words →
    processor.execute now line = (processor.record line).curl words
  unknown : ∀ first, words.find? isUnknown = some first →
    processor.curl words =
      (.ok (.error ("curl: option " ++ first ++ ": is unknown\n" ++
        "curl: try 'curl --help' for more information")), processor)
  noUrl : words.find? isUnknown = none → words.filter isUrl = [] →
    processor.curl words =
      (.ok (.error "curl: try 'curl --help' for more information"), processor)
  manyUrls : words.find? isUnknown = none → 1 < (words.filter isUrl).length →
    processor.curl words = (.ok (.error "curl: only one URL is supported"), processor)
  oneUrl : ∀ url, words.find? isUnknown = none → words.filter isUrl = [url] →
    processor.network.latency.isDrawable = true →
      ∃ result plain, Fetches url words processor result plain
  oversized : ∀ url, words.find? isUnknown = none → words.filter isUrl = [url] →
    processor.network.latency.isDrawable = false → FailsToWait url words processor
  reordered : ∀ others : List String, others.Perm words →
    others.filter isUnknown = words.filter isUnknown →
      processor.curl others = processor.curl words
  repeated : ∀ front back flag, words = front ++ back → flag ∈ words → flag ∈ flags →
    processor.curl (front ++ flag :: back) = processor.curl words

/-- The first unknown option is refused wherever it stands, then what is not exactly one
address; one address is fetched once, and the head of the answer comes in front of what is
printed without it, unless the window is too large for a delay to be drawn. -/
theorem curl_takes_arguments (words : List String) (processor : Processor) :
    TakesArguments words processor := by
  constructor
  case executed => exact fun now line typed => execute_curl typed now processor
  case unknown => exact fun first found => curl_of_unknown found processor
  case noUrl =>
    intro known none
    rw [curl_of_known known, none]
    rfl
  case manyUrls => exact fun known many => curl_of_many known many processor
  case oneUrl => exact fun url known single => fetches_of_known known single
  case oversized => exact fun url known single => failsToWait_of_known known single
  case reordered =>
    intro others perm same
    refine curl_congr ?_ perm.any_eq (perm.filter isUrl) processor
    rw [← List.head?_filter, same, List.head?_filter]
  case repeated =>
    rintro front back flag rfl member known
    obtain ⟨option, address⟩ := of_mem_flags known
    refine curl_congr ?_ ?_ ?_ processor
    · simp [List.find?_append, option]
    · have same (word : String) : word ∈ front ++ flag :: back ↔ word ∈ front ++ back := by
        rw [List.mem_append, List.mem_cons, or_left_comm, ← List.mem_append]
        exact or_iff_right_of_imp fun here => here ▸ member
      rw [wantsHeaders, wantsHeaders, Bool.eq_iff_iff]
      simp only [List.any_eq_true, same]
    · simp [address]

/-- The head of a page of the bank is not told if the delay can be too long for a number. -/
theorem curl_of_endless_window :
    let window : Latency := { low := 0, high := Nat.pow 10 400, ordered := Nat.zero_le _ }
    let processor := fresh default window (.constant 0.5)
    let words := ["-i", "http://vulnerable-bank.lab:8080"]
    words.find? isUnknown = none ∧ words.filter isUrl = ["http://vulnerable-bank.lab:8080"] ∧
      wantsHeaders words = true ∧
      (processor.network.hosts.answer "http://vulnerable-bank.lab:8080").status = 200 ∧
      (processor.curl words).1 = .ok (.error "int too large to convert to float") ∧
      Text.cutAtEmptyLine "int too large to convert to float" = none ∧
      (processor.curl words).2.network.delays = [] := by
  intro window processor words
  have known : words.find? isUnknown = none := by decide
  have single : words.filter isUrl = ["http://vulnerable-bank.lab:8080"] := by decide
  have oversized : processor.network.latency.isDrawable = false := by decide +kernel
  have fails := failsToWait_of_known known single oversized
  exact ⟨known, single, by decide, by decide +kernel, fails.answered, by decide +kernel,
    fails.delays⟩

end Processor

end CyberRange
