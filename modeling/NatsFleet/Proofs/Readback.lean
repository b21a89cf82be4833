import NatsFleet.Controller.Pass
import NatsFleet.Proofs.Digits
import NatsFleet.Proofs.Document
import Mathlib.Data.Set.Function

/-!
The text of a configuration loses nothing: read line by line, it gives the configuration that it was
made from. Only a line feed inside an address or a path could be taken for the end of a line.
-/
namespace NatsFleet

def TlsFiles.files (t : TlsFiles) : List String := [t.caFile, t.certFile, t.keyFile]

namespace ServerConfig

abbrev Line := List Char

def after? (lead : String) (line : Line) : Option Line :=
  if lead.toList.isPrefixOf line then some (line.drop lead.toList.length) else none

def before? (tail : String) (line : Line) : Option Line :=
  if tail.toList.isSuffixOf line then some (line.take (line.length - tail.toList.length)) else none

def between? (lead tail : String) (line : Line) : Option String :=
  ((after? lead line).bind (before? tail)).map String.ofList

def readWhole (digits : Line) : Option Nat :=
  if digits ≠ [] ∧ digits.all Char.isDigit then some (Nat.ofDigitChars 10 digits 0) else none

def readInt (text : Line) : Option Int :=
  if text.head? = some '-' then (readWhole text.tail).map fun n : Nat => -(n : Int)
  else (readWhole text).map Int.ofNat

def readPort (text : Line) : Option Int32 :=
  (readInt text).bind fun n => if (Int32.ofInt n).toInt = n then some (Int32.ofInt n) else none

def readFlag (text : Line) : Option Bool :=
  if text = "true".toList then some true else if text = "false".toList then some false else none

def readTls (indent : String) : List Line → Option (Option TlsFiles × List Line)
  | head :: ca :: cert :: key :: foot :: rest =>
    if head = (indent ++ "tls \x7b").toList then do
      let caFile ← between? (indent ++ "  ca_file: \"") "\"" ca
      let certFile ← between? (indent ++ "  cert_file: \"") "\"" cert
      let keyFile ← between? (indent ++ "  key_file: \"") "\"" key
      if foot = (indent ++ "\x7d").toList then some (some ⟨caFile, certFile, keyFile⟩, rest) else none
    else some (none, head :: ca :: cert :: key :: foot :: rest)
  | lines => some (none, lines)

def takeRoutes (port : Int32) : List Line → Option (List String × List Line)
  | [] => none
  | line :: rest =>
    if line = "  ]".toList then some ([], rest)
    else do
      let route ← between? "    nats://" (":" ++ portText port) line
      let (routes, rest) ← takeRoutes port rest
      some (route :: routes, rest)

def readCluster : List Line → Option (Int32 × List String × Option TlsFiles)
  | head :: port :: list :: rest => do
    let port ← (after? "  port: " port).bind readPort
    let (routes, rest) ← takeRoutes port rest
    let (tls, rest) ← readTls "  " rest
    if head = "cluster \x7b".toList ∧ list = "  routes = [".toList ∧ rest = ["\x7d".toList, []] then
      some (port, routes, tls)
    else none
  | _ => none

def readLines : List Line → Option ServerConfig
  | client :: http :: debug :: trace :: blank :: rest => do
    let clientPort ← (after? "port: " client).bind readPort
    let httpPort ← (after? "http: " http).bind readPort
    let debug ← (after? "debug: " debug).bind readFlag
    let trace ← (after? "trace: " trace).bind readFlag
    let (tls, rest) ← readTls "" rest
    let (clusterPort, routes, clusterTls) ← readCluster (if tls.isSome then rest.tail else rest)
    if blank = [] then
      some ⟨clientPort, httpPort, debug, trace, tls, clusterPort, routes, clusterTls⟩
    else none
  | _ => none

/-- Reads a document back from its text. -/
def read (text : String) : Option ServerConfig := readLines (text.toList.splitOn '\n')

def texts (c : ServerConfig) : List String :=
  c.routes ++ (c.tls.toList ++ c.clusterTls.toList).flatMap TlsFiles.files

def OneLined (c : ServerConfig) : Prop := ∀ s ∈ c.texts, '\n' ∉ s.toList

instance (c : ServerConfig) : Decidable c.OneLined :=
  inferInstanceAs (Decidable (∀ s ∈ c.texts, '\n' ∉ s.toList))

/-- A lead that is there is taken off. -/
theorem after?_append (lead : String) (text : Line) : after? lead (lead.toList ++ text) = some text := by
  have hlead : lead.toList.isPrefixOf (lead.toList ++ text) = true :=
    List.isPrefixOf_iff_prefix.mpr (List.prefix_append _ _)
  rw [after?, if_pos hlead, List.drop_left]

theorem before?_append (text : Line) (tail : String) : before? tail (text ++ tail.toList) = some text := by
  have htail : tail.toList.isSuffixOf (text ++ tail.toList) = true :=
    List.isSuffixOf_iff_suffix.mpr (List.suffix_append _ _)
  rw [before?, if_pos htail, List.length_append, Nat.add_sub_cancel, List.take_left]

theorem between?_append (lead text tail : String) :
    between? lead tail (lead ++ text ++ tail).toList = some text := by
  rw [String.toList_append, String.toList_append, List.append_assoc, between?, after?_append,
    Option.bind_some, before?_append, Option.map_some, String.ofList_toList]

/-- The digits of a number are read as that number. -/
theorem readWhole_toDigits (n : Nat) : readWhole (Nat.toDigits 10 n) = some n := by
  have hdigits : (Nat.toDigits 10 n).all Char.isDigit = true :=
    List.all_eq_true.mpr fun _ hc => Text.isDigit_of_mem hc
  rw [readWhole, if_pos ⟨Nat.toDigits_ne_nil, hdigits⟩, Nat.ofDigitChars_ten_toDigits]

theorem readInt_toString (n : Int) : readInt (toString n).toList = some n := by
  rcases Text.intText n with ⟨m, rfl, htext⟩ | ⟨m, rfl, -, htext⟩
  · -- The first digit is no sign.
    have hsign : (Nat.toDigits 10 m).head? ≠ some '-' := by
      intro h
      exact absurd (Text.isDigit_of_mem (List.mem_of_head? h)) (by decide)
    rw [htext, readInt, if_neg hsign, readWhole_toDigits]
    rfl
  · rw [htext, readInt, List.head?_cons, if_pos rfl, List.tail_cons, readWhole_toDigits]
    rfl

/-- A port is read back from its text. -/
theorem readPort_portText (port : Int32) : readPort (portText port).toList = some port := by
  have hfits : (Int32.ofInt port.toInt).toInt = port.toInt := by rw [Int32.ofInt_toInt]
  rw [readPort, portText, readInt_toString, Option.bind_some, if_pos hfits, Int32.ofInt_toInt]

/-- A flag is read back from its text. -/
theorem readFlag_flagText (flag : Bool) : readFlag (flagText flag).toList = some flag := by
  cases flag <;> decide

theorem readPort_line (lead : String) (port : Int32) :
    (after? lead (lead ++ portText port).toList).bind readPort = some port := by
  rw [String.toList_append, after?_append, Option.bind_some, readPort_portText]

theorem readFlag_line (lead : String) (flag : Bool) :
    (after? lead (lead ++ flagText flag).toList).bind readFlag = some flag := by
  rw [String.toList_append, after?_append, Option.bind_some, readFlag_flagText]

/-- The block of a TLS configuration is read back, and the lines after it are left. -/
theorem readTls_lines (indent : String) (t : TlsFiles) (rest : List Line) :
    readTls indent ((t.lines indent).map String.toList ++ rest) = some (some t, rest) := by
  simp only [TlsFiles.lines, List.map_cons, List.map_nil, List.cons_append, List.nil_append, readTls,
    if_true, between?_append]
  rfl

/-- Where no such block begins nothing is read. -/
theorem readTls_of_head_ne (indent : String) (head : Line) (rest : List Line)
    (h : head ≠ (indent ++ "tls \x7b").toList) :
    readTls indent (head :: rest) = some (none, head :: rest) := by
  unfold readTls
  split
  · rename_i heq
    obtain ⟨rfl, rfl⟩ := List.cons.inj heq
    rw [if_neg h]
  · rfl

/-- The routes are read up to the bracket that closes their list. -/
theorem takeRoutes_lines (port : Int32) (routes : List String) (rest : List Line) :
    takeRoutes port ((routes.map (routeLine port)).map String.toList ++ "  ]".toList :: rest) =
      some (routes, rest) := by
  induction routes with
  | nil => simp only [List.map_nil, List.nil_append, takeRoutes, if_true]
  | cons route routes ih =>
    -- The line of a route is indented further than the end of the list.
    have hline : (routeLine port route).toList ≠ "  ]".toList := by
      intro h
      have hthird := congrArg (fun cs => cs[2]?) h
      simp [routeLine, String.toList_append] at hthird
    have hroute : between? "    nats://" (":" ++ portText port) (routeLine port route).toList =
        some route := by
      rw [routeLine, String.append_assoc]
      exact between?_append _ _ _
    rw [List.map_cons, List.map_cons, List.cons_append, takeRoutes, if_neg hline, hroute, ih]
    rfl

def clusterLines (c : ServerConfig) : List String :=
  ["cluster \x7b", "  port: " ++ portText c.clusterPort, "  routes = ["] ++
  (c.routes.map (routeLine c.clusterPort) ++ c.closing)

theorem readTls_closing (c : ServerConfig) :
    ∃ rest, c.closing.map String.toList ++ [[]] = "  ]".toList :: rest ∧
      readTls "  " rest = some (c.clusterTls, ["\x7d".toList, []]) := by
  cases h : c.clusterTls with
  | none =>
    refine ⟨["\x7d".toList, []], by rw [closing, h]; rfl, ?_⟩
    exact readTls_of_head_ne _ _ _ (by decide)
  | some t =>
    refine ⟨(t.lines "  ").map String.toList ++ ["\x7d".toList, []], ?_, readTls_lines _ _ _⟩
    rw [closing, h, List.map_append, List.map_append, List.append_assoc, List.append_assoc]
    rfl

/-- The cluster block is read back to the end of the document. -/
theorem readCluster_lines (c : ServerConfig) :
    readCluster (c.clusterLines.map String.toList ++ [[]]) =
      some (c.clusterPort, c.routes, c.clusterTls) := by
  obtain ⟨rest, hrest, htls⟩ := readTls_closing c
  have hlines : c.clusterLines.map String.toList ++ [[]] =
      "cluster \x7b".toList :: ("  port: " ++ portText c.clusterPort).toList ::
        "  routes = [".toList :: ((c.routes.map (routeLine c.clusterPort)).map String.toList ++
          "  ]".toList :: rest) := by
    rw [← hrest, clusterLines, List.map_append, List.map_append, List.append_assoc,
      List.append_assoc]
    rfl
  rw [hlines, readCluster, readPort_line]
  simp only [Option.bind_eq_bind, Option.bind_some, takeRoutes_lines, htls]
  rfl

def serverLines (c : ServerConfig) : List String :=
  match c.tls with
  | none => []
  | some t => t.lines "" ++ [""]

theorem lines_eq_blocks (c : ServerConfig) : c.lines =
    ["port: " ++ portText c.clientPort, "http: " ++ portText c.httpPort,
      "debug: " ++ flagText c.debug, "trace: " ++ flagText c.trace, ""] ++
    (c.serverLines ++ c.clusterLines) := by
  rw [lines_eq, opening, clusterLines, serverLines]
  cases c.tls <;> simp only [List.append_assoc, List.cons_append, List.nil_append]

theorem readTls_serverLines (c : ServerConfig) :
    ∃ rest, readTls "" ((c.serverLines ++ c.clusterLines).map String.toList ++ [[]]) =
        some (c.tls, rest) ∧
      (if c.tls.isSome then rest.tail else rest) = c.clusterLines.map String.toList ++ [[]] := by
  cases h : c.tls with
  | none =>
    refine ⟨_, ?_, rfl⟩
    rw [serverLines, h]
    exact readTls_of_head_ne _ _ _ (by decide)
  | some t =>
    refine ⟨[] :: (c.clusterLines.map String.toList ++ [[]]), ?_, rfl⟩
    rw [serverLines, h, List.map_append, List.map_append, List.append_assoc, List.append_assoc]
    exact readTls_lines _ _ _

/-- The lines of a configuration are read back as that configuration. -/
theorem readLines_lines (c : ServerConfig) :
    readLines (c.lines.map String.toList ++ [[]]) = some c := by
  obtain ⟨rest, htls, hrest⟩ := readTls_serverLines c
  rw [lines_eq_blocks, List.map_append, List.append_assoc]
  simp only [List.map_cons, List.map_nil, List.cons_append, List.nil_append, readLines, readPort_line,
    readFlag_line, htls, Option.bind_eq_bind, Option.bind_some, hrest, readCluster_lines]
  rfl

/-- No text of a port has a line feed. -/
theorem newline_not_mem_portText (port : Int32) : '\n' ∉ (portText port).toList := by
  intro h
  have hdigits (m : Nat) : '\n' ∉ Nat.toDigits 10 m := by
    intro hm
    exact absurd (Text.isDigit_of_mem hm) (by decide)
  rcases Text.intText port.toInt with ⟨m, -, htext⟩ | ⟨m, -, -, htext⟩
  · rw [portText, htext] at h
    exact hdigits m h
  · rw [portText, htext, List.mem_cons] at h
    rcases h with h | h
    · exact absurd h (by decide)
    · exact hdigits m h

theorem newline_not_mem_tlsLines {indent : String} (hindent : '\n' ∉ indent.toList) {t : TlsFiles}
    (h : ∀ f ∈ t.files, '\n' ∉ f.toList) : ∀ l ∈ t.lines indent, '\n' ∉ l.toList := by
  intro l hl
  have hca := h t.caFile (by simp [TlsFiles.files])
  have hcert := h t.certFile (by simp [TlsFiles.files])
  have hkey := h t.keyFile (by simp [TlsFiles.files])
  simp only [TlsFiles.lines, List.mem_cons, List.not_mem_nil, or_false] at hl
  rcases hl with rfl | rfl | rfl | rfl | rfl <;> simp [hindent, hca, hcert, hkey]

theorem newline_not_mem_opening {c : ServerConfig}
    (h : ∀ t ∈ c.tls.toList, ∀ f ∈ t.files, '\n' ∉ f.toList) : ∀ l ∈ c.opening, '\n' ∉ l.toList := by
  have hflag (flag : Bool) : '\n' ∉ (flagText flag).toList := by cases flag <;> decide
  intro l hl
  simp only [opening, List.mem_append] at hl
  rcases hl with (hl | hl) | hl
  · simp only [List.mem_cons, List.not_mem_nil, or_false] at hl
    rcases hl with rfl | rfl | rfl | rfl <;> simp [newline_not_mem_portText, hflag]
  · cases htls : c.tls with
    | none => simp [htls] at hl
    | some t =>
      rw [htls] at hl
      rcases List.mem_cons.mp hl with rfl | hl
      · decide
      · exact newline_not_mem_tlsLines (by decide) (h t (by simp [htls])) l hl
  · simp only [List.mem_cons, List.not_mem_nil, or_false] at hl
    rcases hl with rfl | rfl | rfl | rfl <;> simp [newline_not_mem_portText]

theorem newline_not_mem_closing {c : ServerConfig}
    (h : ∀ t ∈ c.clusterTls.toList, ∀ f ∈ t.files, '\n' ∉ f.toList) :
    ∀ l ∈ c.closing, '\n' ∉ l.toList := by
  intro l hl
  simp only [closing, List.mem_append] at hl
  rcases hl with (hl | hl) | hl
  · rw [List.mem_singleton.mp hl]
    decide
  · cases htls : c.clusterTls with
    | none => simp [htls] at hl
    | some t =>
      rw [htls] at hl
      exact newline_not_mem_tlsLines (by decide) (h t (by simp [htls])) l hl
  · rw [List.mem_singleton.mp hl]
    decide

/-- If no address and no path has a line feed in it, then neither has a line. -/
theorem newline_not_mem_lines {c : ServerConfig} (h : c.OneLined) :
    ∀ l ∈ c.lines, '\n' ∉ l.toList := by
  have hfiles : ∀ t ∈ c.tls.toList ++ c.clusterTls.toList, ∀ f ∈ t.files, '\n' ∉ f.toList := by
    intro t ht f hf
    exact h f (List.mem_append_right _ (List.mem_flatMap.mpr ⟨t, ht, hf⟩))
  intro l hl
  rw [lines_eq, List.mem_append, List.mem_append] at hl
  rcases hl with hl | hl | hl
  · exact newline_not_mem_opening (fun t ht => hfiles t (List.mem_append_left _ ht)) l hl
  · obtain ⟨r, hr, rfl⟩ := List.mem_map.mp hl
    have hroute := h r (List.mem_append_left _ hr)
    simp [routeLine, newline_not_mem_portText, hroute]
  · exact newline_not_mem_closing (fun t ht => hfiles t (List.mem_append_right _ ht)) l hl

/-- What is read from the text of a configuration is the configuration. -/
theorem read_render {c : ServerConfig} (h : c.OneLined) : read c.render = some c := by
  rw [read, render, splitOn_join _ (newline_not_mem_lines h), readLines_lines]

/-- No two configurations have one text. -/
theorem render_injOn : Set.InjOn render {c | c.OneLined} := by
  intro c hc d hd heq
  have hread : some c = some d := by
    calc some c = read c.render := (read_render hc).symm
      _ = read d.render := by rw [heq]
      _ = some d := read_render hd
  exact Option.some.inj hread

/-- The paths of a configuration are fixed, so only its addresses can break a line. -/
theorem forCluster_oneLined (spec : ClusterSpec) {routes : List String}
    (h : ∀ r ∈ routes, '\n' ∉ r.toList) : (forCluster spec routes).OneLined := by
  have hfiles : ∀ t ∈ [TlsFiles.server, TlsFiles.routes], ∀ f ∈ t.files, '\n' ∉ f.toList := by decide
  intro s hs
  rcases List.mem_append.mp hs with hs | hs
  · exact h s hs
  · obtain ⟨t, ht, hs⟩ := List.mem_flatMap.mp hs
    refine hfiles t ?_ s hs
    simp only [forCluster, List.mem_append, Option.mem_toList, Option.map_eq_some_iff] at ht
    rcases ht with ⟨_, -, rfl⟩ | ⟨_, -, rfl⟩
    · exact List.mem_cons_self
    · exact List.mem_cons_of_mem _ List.mem_cons_self

/-- A configuration whose addresses and paths have no line feed in them is read back exactly from its
text. No two of them have the same text, and so no two passes whose configurations differ write the
same one. -/
theorem render_lossless :
    (∀ c : ServerConfig, c.OneLined → read c.render = some c) ∧
      Set.InjOn render {c | c.OneLined} ∧
      ∀ (id id' : Identity) (w w' : Work), (∀ r ∈ w.plan.routes id w.planned, '\n' ∉ r.toList) →
        (∀ r ∈ w'.plan.routes id' w'.planned, '\n' ∉ r.toList) →
        (Pass.config id w).render = (Pass.config id' w').render →
        Pass.config id w = Pass.config id' w' := by
  refine ⟨fun c hc => read_render hc, render_injOn, ?_⟩
  intro id id' w w' hroutes hroutes' heq
  exact render_injOn (forCluster_oneLined w.spec hroutes) (forCluster_oneLined w'.spec hroutes') heq

def lookalike : ServerConfig where
  clientPort := -1
  httpPort := 2147483647
  debug := true
  trace := false
  tls := some ⟨"\"", "\x7d", "a\"  key_file: \"b"⟩
  clusterPort := -2147483648
  routes := ["  ]", "", "    nats://x:-2147483648", "tls \x7b"]
  clusterTls := some ⟨"", "  tls \x7b", "\\"⟩

def newborn (names : List String) : Work :=
  ⟨{ size := 2 }, { removals := [], kept := [], observed := 0, replaced := false }, names⟩

theorem render_lossless_lookalike :
    lookalike.OneLined ∧ read lookalike.render = some lookalike ∧
      (Pass.config ⟨"demo", "default", none⟩ (newborn ["demo-bcdfg", "demo-hjklm"])).render ≠
        (Pass.config ⟨"demo", "default", none⟩ (newborn ["demo-hjklm", "demo-bcdfg"])).render := by
  have hlined : lookalike.OneLined := by decide
  refine ⟨hlined, render_lossless.1 lookalike hlined, fun h => ?_⟩
  have hsame := render_lossless.2.2 _ _ _ _ (by decide) (by decide) h
  exact absurd (congrArg ServerConfig.routes hsame) (by decide)

end ServerConfig
end NatsFleet
