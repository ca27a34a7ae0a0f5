import CyberRange.Proofs.Network.Identification
import CyberRange.Proofs.Shell.Effects
import CyberRange.Proofs.Text.Joining
import CyberRange.Proofs.Text.Numerals
import Mathlib

namespace CyberRange

/-! Scan reports read back.

The table stands between its header and the next empty line.  A zone may call itself anything,
so lines in front of the header may look like it; but none behind it does, and so the last one is
the header.  Each port of a host can be told from the words of its line, also where a number is
too wide for its column.
-/

namespace Text

variable {c : Char} {width : Nat} {text : String}

theorem words_padRight (width : Nat) (text : String) : words (padRight width text) = words text := by
  have spaced (count : Nat) (letters : List Char) :
      filledPieces isBlank (letters ++ List.replicate count ' ') = filledPieces isBlank letters := by
    cases count with
    | zero => rw [List.replicate_zero, List.append_nil]
    | succ count =>
        have blank : filledPieces isBlank (List.replicate count ' ') = [] :=
          filledPieces_eq_nil_iff.mpr fun c member => by rw [List.eq_of_mem_replicate member]; rfl
        rw [List.replicate_succ, filledPieces_append_separator (by decide), blank, List.append_nil]
  rw [words, padRight, String.toList_append, String.toList_ofList, spaced, words]

theorem not_mem_padRight (different : c ≠ ' ') (clean : c ∉ text.toList) :
    c ∉ (padRight width text).toList := by
  rw [padRight, String.toList_append, String.toList_ofList, List.mem_append, not_or]
  exact ⟨clean, fun spaces => different (List.eq_of_mem_replicate spaces)⟩

end Text

theorem isWord_serviceOf (port : Int) : Text.IsWord (serviceOf port) := by
  have listed : ∀ name ∈ "unknown" :: services.map Prod.snd,
      name ≠ "" ∧ name.toList.any Text.isBlank = false := by decide
  have member : serviceOf port ∈ "unknown" :: services.map Prod.snd := by
    rw [serviceOf]
    cases known : services.lookup port with
    | none => exact List.mem_cons_self
    | some name =>
        obtain ⟨front, back, split, -⟩ := List.lookup_eq_some_iff.mp known
        exact List.mem_cons_of_mem _ (List.mem_map.mpr ⟨(port, name), by simp [split], rfl⟩)
  exact ⟨(listed _ member).1, Text.isBlank_eq_false_of_any (listed _ member).2⟩

namespace Timestamp

variable {time : Timestamp}

theorem zeroPadded_clean (width value : Nat) : '\n' ∉ (Text.zeroPadded width value).toList :=
  fun feed => absurd (Text.isDigit_of_mem_zeroPadded feed) (by decide)

theorem offsetName_clean (time : Timestamp) : '\n' ∉ time.offsetName.toList := by
  have shift (offset : Int) : '\n' ∉ (offsetText offset).toList := by
    simp only [offsetText, String.toList_append, List.mem_append, not_or]
    refine ⟨⟨⟨⟨?_, zeroPadded_clean _ _⟩, by decide⟩, zeroPadded_clean _ _⟩, ?_⟩
    · split <;> decide
    · split
      · decide
      · simp [zeroPadded_clean]
  rw [offsetName]
  split
  · decide
  · split
    · decide
    · simp [shift]

theorem minuteStamp_clean (plain : ∀ name, time.zone = some name → '\n' ∉ name.toList) :
    '\n' ∉ time.minuteStamp.toList := by
  have year : toString time.year = Text.zeroPadded 0 time.year := by
    rw [Text.zeroPadded, Nat.zero_sub, List.replicate_zero, List.nil_append]
    exact Nat.repr_eq_ofList_toDigits
  have zone : '\n' ∉ time.zoneName.toList := by
    rw [zoneName]
    cases named : time.zone with
    | none => exact time.offsetName_clean
    | some name => exact plain name named
  simp [minuteStamp, year, zeroPadded_clean, zone]

end Timestamp

namespace Report

variable {output query ip line : String} {port : Int} {ports : List Int} {kind : LineKind}
  {front back : List String}

/-- What a line of a report is for, by the words that it begins with: it names the host, tells
how many ports are left out, or stands above the table. -/
inductive LineKind where
  | naming
  | count
  | header
  | other
deriving DecidableEq

def lineKind (line : String) : LineKind :=
  if (Text.words line).take 4 = ["Nmap", "scan", "report", "for"] then .naming
  else if (Text.words line).take 2 = ["Not", "shown:"] then .count
  else if Text.words line = ["PORT", "STATE", "SERVICE"] then .header
  else .other

/-- The last line of a kind, and the lines behind it. -/
def lastLine (kind : LineKind) : List String → Option (String × List String)
  | [] => none
  | line :: rest =>
      match lastLine kind rest with
      | some found => some found
      | none => if lineKind line = kind then some (line, rest) else none

theorem lastLine_eq_none (different : ∀ line ∈ back, lineKind line ≠ kind) :
    lastLine kind back = none := by
  induction back with
  | nil => rfl
  | cons line rest induction =>
      rw [lastLine, induction fun later member => different later (List.mem_cons_of_mem _ member)]
      exact if_neg (different line List.mem_cons_self)

theorem lastLine_append {found : String × List String} (front : List String)
    (behind : lastLine kind back = some found) : lastLine kind (front ++ back) = some found := by
  induction front with
  | nil => exact behind
  | cons first rest induction => rw [List.cons_append, lastLine, induction]

/-- The words of the lines between the header of a table and the next empty line. -/
def tableRows (output : String) : List (List String) :=
  (((lastLine .header (Text.lines output)).elim [] Prod.snd).takeWhile
    fun line => decide (line ≠ "")).map Text.words

/-- The number on the line that tells how many ports are left out. -/
def notShown (output : String) : Option Int :=
  (lastLine .count (Text.lines output)).bind fun (line, _) =>
    (Text.words line)[2]?.bind String.toInt?

def namingLine (output : String) : Option String :=
  (lastLine .naming (Text.lines output)).map Prod.fst

def portRow (port : Int) : List String :=
  [toString port ++ "/tcp", "open", serviceOf port]

def naming (query ip : String) : String :=
  "Nmap scan report for " ++ query ++ " (" ++ ip ++ ")"

/-- What can be read off a report on a host. -/
structure Reads (output query : String) (target : Target) : Prop where
  rows : tableRows output = target.ports.map portRow
  total : ∃ count, notShown output = some count ∧ count + (tableRows output).length = 1000
  named : namingLine output = some (naming query target.ip)

/-- There is one line of each kind, so that it does not matter which of them is taken. -/
def Unambiguous (output : String) : Prop :=
  ∀ kind ≠ .other, (Text.lines output).countP (lineKind · = kind) = 1

def openPort (port : Int) : PortInfo :=
  { port, state := "open", service := serviceOf port }

theorem isWord_port (port : Int) : Text.IsWord (toString port ++ "/tcp") :=
  (Text.isWord_toString_int port).append (Text.isBlank_eq_false_of_any (by decide))

theorem words_portLine (port : Int) : Text.words (portLine (openPort port)) = portRow port := by
  have state : Text.words "open" = ["open"] := rfl
  simp only [portLine, openPort, Text.words_append_space, Text.words_padRight, state,
    (isWord_port port).words_eq, (isWord_serviceOf port).words_eq]
  rfl

theorem portLine_ne_empty (port : Int) : portLine (openPort port) ≠ "" := by
  intro empty
  have fields := words_portLine port
  rw [empty] at fields
  exact absurd fields (List.cons_ne_nil _ _).symm

theorem portLine_clean (port : Int) : '\n' ∉ (portLine (openPort port)).toList := by
  have number : '\n' ∉ (toString port ++ "/tcp").toList := fun feed =>
    absurd ((isWord_port port).unblank _ feed) (by decide)
  have service : '\n' ∉ (serviceOf port).toList := fun feed =>
    absurd ((isWord_serviceOf port).unblank _ feed) (by decide)
  simp only [portLine, openPort, String.toList_append, List.mem_append, not_or]
  exact ⟨⟨⟨⟨Text.not_mem_padRight (by decide) number, by decide⟩,
    Text.not_mem_padRight (by decide) (by decide)⟩, by decide⟩, service⟩

/-- The first line of a report; more than one if the name of the zone has more. -/
def opening (time : Timestamp) : String :=
  "Starting Nmap 7.92 ( https://nmap.org ) at " ++ time.minuteStamp

def hostUp : String := "Host is up (0.0024s latency)."

def counting (count : Int) : String :=
  "Not shown: " ++ toString count ++ " closed tcp ports (reset)"

/-- The lines behind the header. -/
def table (ports : List Int) : List String :=
  (ports.map fun port => portLine (openPort port)) ++
    ["", "Nmap done: 1 IP address (1 host up) scanned in 1.45 seconds"]

/-- The lines behind the first. -/
def details (query ip : String) (ports : List Int) : List String :=
  naming query ip :: hostUp :: counting (1000 - (ports.length : Int)) :: portHeader :: table ports

theorem details_clean (typed : '\n' ∉ query.toList) (clean : '\n' ∉ ip.toList) :
    ∀ line ∈ details query ip ports, '\n' ∉ line.toList := by
  have count : '\n' ∉ (toString (1000 - (ports.length : Int))).toList := fun feed =>
    (Text.of_mem_toString_int feed).elim (by decide) (by decide)
  intro line member
  simp only [details, table, List.mem_cons, List.mem_append, List.mem_map, List.not_mem_nil,
    or_false] at member
  rcases member with rfl | rfl | rfl | rfl | ⟨port, -, rfl⟩ | rfl | rfl
  · show '\n' ∉ ("Nmap scan report for " ++ query ++ " (" ++ ip ++ ")").toList
    simp only [String.toList_append, List.mem_append, not_or]
    exact ⟨⟨⟨⟨by decide, typed⟩, by decide⟩, clean⟩, by decide⟩
  · decide
  · show '\n' ∉ ("Not shown: " ++ toString (1000 - (ports.length : Int)) ++
      " closed tcp ports (reset)").toList
    simp only [String.toList_append, List.mem_append, not_or]
    exact ⟨⟨by decide, count⟩, by decide⟩
  · decide
  · exact portLine_clean port
  · decide
  · decide

theorem lines_scan (time : Timestamp) (typed : '\n' ∉ query.toList) (clean : '\n' ∉ ip.toList)
    (ports : List Int) :
    Text.lines (scan time query ip (ports.map openPort)) =
      Text.lines (opening time) ++ details query ip ports := by
  have parts : scan time query ip (ports.map openPort) =
      opening time ++ "\n" ++ String.intercalate "\n" (details query ip ports) := by
    rw [details, ← String.intercalate_cons_cons, scan, List.map_map, List.length_map]
    rfl
  have filled : details query ip ports ≠ [] := List.cons_ne_nil _ _
  rw [parts, Text.lines_append_feed, Text.lines_intercalate filled (details_clean typed clean)]

theorem lineKind_opening (time : Timestamp) : lineKind (opening time) = .other := by
  have front : opening time =
      "Starting" ++ " " ++ ("Nmap 7.92 ( https://nmap.org ) at " ++ time.minuteStamp) := by
    show "Starting Nmap 7.92 ( https://nmap.org ) at " ++ time.minuteStamp = _
    simp [← String.toList_inj]
  have first : Text.words "Starting" = ["Starting"] := rfl
  rw [lineKind, front, Text.words_append_space, first]
  simp

theorem lineKind_naming (query ip : String) : lineKind (naming query ip) = .naming := by
  have front : naming query ip = "Nmap scan report for" ++ " " ++ (query ++ " (" ++ ip ++ ")") := by
    show "Nmap scan report for " ++ query ++ " (" ++ ip ++ ")" = _
    simp [← String.toList_inj]
  have first : Text.words "Nmap scan report for" = ["Nmap", "scan", "report", "for"] := rfl
  rw [lineKind, front, Text.words_append_space, first]
  simp

theorem words_counting (count : Int) :
    Text.words (counting count) =
      ["Not", "shown:", toString count, "closed", "tcp", "ports", "(reset)"] := by
  have front : counting count =
      "Not shown:" ++ " " ++ toString count ++ " " ++ "closed tcp ports (reset)" := by
    show "Not shown: " ++ toString count ++ " closed tcp ports (reset)" = _
    simp [← String.toList_inj]
  rw [front, Text.words_append_space, Text.words_append_space,
    (Text.isWord_toString_int count).words_eq]
  rfl

theorem lineKind_counting (count : Int) : lineKind (counting count) = .count := by
  simp [lineKind, words_counting]

theorem lineKind_hostUp : lineKind hostUp = .other := by decide

theorem lineKind_portHeader : lineKind portHeader = .header := by decide

/-- Behind the header there is nothing but ports, and two lines that look like no others. -/
theorem lineKind_of_mem_table (member : line ∈ table ports) : lineKind line = .other := by
  simp only [table, List.mem_append, List.mem_map, List.mem_cons, List.not_mem_nil,
    or_false] at member
  rcases member with ⟨port, -, rfl⟩ | rfl | rfl
  · simp [lineKind, words_portLine, portRow]
  · decide
  · decide

theorem takeWhile_table (ports : List Int) :
    (table ports).takeWhile (fun line => decide (line ≠ "")) =
      ports.map fun port => portLine (openPort port) := by
  have filled : ∀ line ∈ ports.map fun port => portLine (openPort port),
      decide (line ≠ "") = true := by
    intro line member
    obtain ⟨port, -, rfl⟩ := List.mem_map.mp member
    exact decide_eq_true (portLine_ne_empty port)
  rw [table, List.takeWhile_append_of_pos filled, List.takeWhile_cons_of_neg (by decide),
    List.append_nil]

theorem reads_scan (time : Timestamp) {target : Target} (typed : '\n' ∉ query.toList)
    (clean : '\n' ∉ target.ip.toList) :
    Reads (scan time query target.ip (target.ports.map openPort)) query target := by
  have lines := lines_scan time typed clean target.ports
  -- No line behind one of a kind is of that kind, so it is the last, whatever a zone has put
  -- in front of it.
  have behind (kind : LineKind) (sought : kind ≠ .other) :
      lastLine kind (table target.ports) = none :=
    lastLine_eq_none fun line member => by rw [lineKind_of_mem_table member]; exact sought.symm
  have header : lastLine .header (details query target.ip target.ports) =
      some (portHeader, table target.ports) := by
    simp [details, lastLine, behind, lineKind_portHeader]
  have count : lastLine .count (details query target.ip target.ports) =
      some (counting (1000 - (target.ports.length : Int)), portHeader :: table target.ports) := by
    simp [details, lastLine, behind, lineKind_portHeader, lineKind_counting]
  have named : (lastLine .naming (details query target.ip target.ports)).map Prod.fst =
      some (naming query target.ip) := by
    simp [details, lastLine, behind, lineKind_portHeader, lineKind_counting, lineKind_hostUp,
      lineKind_naming]
  have rows : tableRows (scan time query target.ip (target.ports.map openPort)) =
      target.ports.map portRow := by
    rw [tableRows, lines, lastLine_append _ header, Option.elim_some, takeWhile_table,
      List.map_map]
    exact List.map_congr_left fun port _ => words_portLine port
  refine ⟨rows, ⟨1000 - target.ports.length, ?_, ?_⟩, ?_⟩
  · rw [notShown, lines, lastLine_append _ count]
    show (Text.words (counting (1000 - (target.ports.length : Int))))[2]?.bind String.toInt? = _
    rw [words_counting]
    exact Int.toInt?_repr _
  · rw [rows, List.length_map]
    omega
  · obtain ⟨found, last, first⟩ := Option.map_eq_some_iff.mp named
    rw [namingLine, lines, lastLine_append _ last, Option.map_some, first]

theorem unambiguous_scan {time : Timestamp} (plain : '\n' ∉ time.minuteStamp.toList)
    (typed : '\n' ∉ query.toList) (clean : '\n' ∉ ip.toList) (ports : List Int) :
    Unambiguous (scan time query ip (ports.map openPort)) := by
  have single : Text.lines (opening time) = [opening time] := by
    apply Text.lines_of_not_mem
    show '\n' ∉ ("Starting Nmap 7.92 ( https://nmap.org ) at " ++ time.minuteStamp).toList
    rw [String.toList_append, List.mem_append, not_or]
    exact ⟨by decide, plain⟩
  intro kind sought
  have behind : (table ports).countP (lineKind · = kind) = 0 := by
    refine List.countP_eq_zero.mpr fun line member => ?_
    simpa [lineKind_of_mem_table member] using sought.symm
  rw [lines_scan time typed clean, single, details]
  cases kind <;>
    simp_all [lineKind_opening, lineKind_naming, lineKind_hostUp,
      lineKind_counting, lineKind_portHeader]

theorem portRow_injective : Function.Injective portRow := by
  intro one two same
  have number : toString one ++ "/tcp" = toString two ++ "/tcp" := (List.cons.inj same).1
  exact Int.repr_inj.mp ((String.append_left_inj _).mp number)

end Report

namespace Processor

variable {now : Timestamp} {line query output : String} {target : Target}
  {processor : Processor}

/-- A scan has printed a report on a host, and the address of each host stands on one line. -/
structure Reports (now : Timestamp) (line query output : String) (target : Target)
    (processor : Processor) : Prop where
  typed : Text.words line = ["nmap", query]
  clean : ∀ entry ∈ processor.network.hosts, '\n' ∉ entry.2.ip.toList
  found : processor.network.hosts.search query = some target
  printed : (processor.execute now line).1 = .ok (.success output)

theorem execute_nmap (typed : Text.words line = ["nmap", query])
    (found : processor.network.hosts.search query = some target) (now : Timestamp) :
    (processor.execute now line).1 =
      match (processor.clock.read now).1 with
      | .error fault => fault.ending
      | .ok time =>
          .ok (.success
            (Report.scan time query target.ip (target.ports.map Report.openPort))) := by
  have known : Verb.ofName? "nmap" = some .nmap := rfl
  have told : processor.network.hosts.scan query = Hosts.report target := by
    rw [Hosts.scan, found]
    rfl
  cases shown : (processor.clock.read now).1 with
  | error fault =>
      simp only [execute, start, typed, known, dispatch, attempt, scan, scanHost, record, found,
        readClock, shown]
      exact congrArg Prod.fst (congrArg (·, processor) (map_caught ..))
  | ok time =>
      simp only [execute, start, typed, known, dispatch, attempt, scan, scanHost, record, found,
        readClock, shown, told]
      rfl

theorem Reports.clean_ip (reports : Reports now line query output target processor) :
    '\n' ∉ target.ip.toList := by
  have found := reports.found
  rw [Hosts.search] at found
  split at found
  · cases found
  · obtain ⟨entry, first, rfl⟩ := Option.map_eq_some_iff.mp found
    exact reports.clean entry (List.mem_of_find?_eq_some first)

theorem Reports.clean_query (reports : Reports now line query output target processor) :
    '\n' ∉ query.toList := by
  have word : query ∈ Text.words line := by simp [reports.typed]
  exact fun feed => absurd (Text.of_mem_words word _ feed).1 (by decide)

theorem Reports.reads (reports : Reports now line query output target processor) :
    Report.Reads output query target := by
  have printed := reports.printed
  rw [execute_nmap reports.typed reports.found] at printed
  split at printed
  · rename_i fault _
    have failed := Failure.not_succeeds (.clock fault)
    rw [Failure.ending, Failure.fault, printed] at failed
    cases failed
  · obtain rfl := (CommandResult.mk.inj (Except.ok.inj printed)).1
    exact Report.reads_scan _ reports.clean_query reports.clean_ip

/-- What a scan prints of a host that is up can be read back: a row for each port, the
number of the others, and the host; so reports on hosts with other ports show other tables.
Only a zone whose name has several lines can put lines into a report that look like these. -/
theorem report_read_back {time : Timestamp} (typed : Text.words line = ["nmap", query])
    (clean : ∀ entry ∈ processor.network.hosts, '\n' ∉ entry.2.ip.toList)
    (up : (processor.network.hosts.scan query).isUp = true)
    (shown : (processor.clock.read now).1 = .ok time) :
    ∃ target output, Reports now line query output target processor ∧
      Report.Reads output query target ∧
      ((∀ name, time.zone = some name → '\n' ∉ name.toList) → Report.Unambiguous output) ∧
      ∀ {moment other token printed host} {elsewhere : Processor},
        Reports moment other token printed host elsewhere → target.ports ≠ host.ports →
          Report.tableRows output ≠ Report.tableRows printed := by
  cases found : processor.network.hosts.search query with
  | none => simp [Hosts.scan, found, ScanResult.isUp] at up
  | some target =>
      have printed := execute_nmap typed found now
      rw [shown] at printed
      have reports : Reports now line query _ target processor := ⟨typed, clean, found, printed⟩
      refine ⟨target, _, reports, reports.reads, fun plain => ?_, fun other different same => ?_⟩
      · exact Report.unambiguous_scan (Timestamp.minuteStamp_clean plain) reports.clean_query
          reports.clean_ip target.ports
      · rw [reports.reads.rows, other.reads.rows] at same
        exact different (List.map_injective_iff.mpr Report.portRow_injective same)

/-- A host with a port twice and one that is too wide for its column, under an address that
reads like the header of the table; and the clock is in a zone whose name holds a table. -/
theorem report_read_back_wide :
    let host : Target :=
      { ip := "PORT STATE SERVICE", ports := [80, 123456789, 80], vulnerabilities := [],
        endpoints := [] }
    let time : Timestamp :=
      { (default : Timestamp) with zone := some "CET\nPORT STATE SERVICE\n9/tcp open discard\n" }
    let processor := create (.atHome (.seed default))
      (.create [("http://wide.lab", host)] .instant (.constant 0.5))
      (.scripted (.constant (.ok time)))
    Text.words " nmap\twide " = ["nmap", "wide"] ∧
      (∀ entry ∈ processor.network.hosts, '\n' ∉ entry.2.ip.toList) ∧
      (processor.network.hosts.scan "wide").isUp = true ∧
      (processor.clock.read default).1 = .ok time ∧
      ∃ output, (processor.execute default " nmap\twide ").1 = .ok (.success output) ∧
        Report.tableRows output =
          [["80/tcp", "open", "http"], ["123456789/tcp", "open", "unknown"],
            ["80/tcp", "open", "http"]] ∧
        Report.notShown output = some 997 := by
  intro host time processor
  have typed : Text.words " nmap\twide " = ["nmap", "wide"] := by decide
  have clean : ∀ entry ∈ processor.network.hosts, '\n' ∉ entry.2.ip.toList := by decide
  have up : (processor.network.hosts.scan "wide").isUp = true := by decide
  have shown : (processor.clock.read default).1 = .ok time := rfl
  obtain ⟨target, output, reports, reads, -⟩ := report_read_back typed clean up shown
  obtain rfl : host = target := Option.some.inj reports.found
  have rows := reads.rows
  obtain ⟨count, counted, total⟩ := reads.total
  rw [rows] at total
  have left : count = 997 := by
    simp only [host, List.length_map, List.length_cons, List.length_nil] at total
    omega
  subst left
  exact ⟨typed, clean, up, shown, output, reports.printed, rows, counted⟩

end Processor

end CyberRange
