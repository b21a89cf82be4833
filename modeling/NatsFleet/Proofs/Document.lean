import NatsFleet.ServerConfig
import Mathlib.Data.List.Basic

/-!
Reading the routes of a configuration back from its text.
-/
namespace NatsFleet.ServerConfig

def routeLead : List Char := "    nats://".toList

def routeTail : List Char := ":6222".toList

/-- The address in a line, if it is the line of a route. -/
def readRoute (line : List Char) : Option String :=
  if routeLead.isPrefixOf line then
    some (String.ofList ((line.drop routeLead.length).take
      (line.length - (routeLead.length + routeTail.length))))
  else none

def readRoutes (text : String) : List String := (text.toList.splitOn '\n').filterMap readRoute

theorem routeLine_toList (route : String) :
    (routeLine Layout.clusterPort route).toList = routeLead ++ (route.toList ++ routeTail) := by
  have hport : portText Layout.clusterPort = "6222" := by decide
  rw [routeLine, hport, String.toList_append, String.toList_append, String.toList_append]
  simp only [List.append_assoc]
  rfl

/-- The address of a route is read back from its line. -/
theorem readRoute_routeLine (route : String) :
    readRoute (routeLine Layout.clusterPort route).toList = some route := by
  have hlen : (routeLead ++ (route.toList ++ routeTail)).length -
      (routeLead.length + routeTail.length) = route.toList.length := by
    simp only [List.length_append]
    omega
  rw [routeLine_toList, readRoute, if_pos, hlen, List.drop_left, List.take_left,
    String.ofList_toList]
  exact List.isPrefixOf_iff_prefix.mpr (List.prefix_append _ _)

/-- Lines without line feeds are found again in their text. -/
theorem splitOn_join (lines : List String) (h : ∀ l ∈ lines, '\n' ∉ l.toList) :
    (String.join (lines.map (· ++ "\n"))).toList.splitOn '\n' = lines.map String.toList ++ [[]] := by
  induction lines with
  | nil => rfl
  | cons l lines ih =>
    -- The first line feed of the text is the one that ends the first line.
    have hl := h l List.mem_cons_self
    have hrest := ih fun m hm => h m (List.mem_cons_of_mem _ hm)
    have hjoin : (String.join ((l :: lines).map (· ++ "\n"))).toList =
        l.toList ++ '\n' :: (String.join (lines.map (· ++ "\n"))).toList := by
      simp [String.join_cons]
    rw [hjoin, List.splitOn_append_cons_self_of_not_mem hl, hrest]
    rfl

/-- A line that is not the line of a route, and has no line feed in it. -/
def IsPlain (line : String) : Prop := readRoute line.toList = none ∧ '\n' ∉ line.toList

instance (line : String) : Decidable (IsPlain line) := inferInstanceAs (Decidable (_ ∧ _))

theorem plain_server_lines : ∀ l ∈ "" :: TlsFiles.server.lines "", IsPlain l := by decide

theorem plain_route_lines : ∀ l ∈ TlsFiles.routes.lines "  ", IsPlain l := by decide

theorem plain_ports : ∀ l ∈ ["port: " ++ portText Layout.clientPort,
    "http: " ++ portText Layout.monitoringPort, "", "cluster \x7b",
    "  port: " ++ portText Layout.clusterPort, "  routes = [", "  ]", "\x7d"], IsPlain l := by
  decide

theorem plain_flags (debug trace : Bool) :
    ∀ l ∈ ["debug: " ++ flagText debug, "trace: " ++ flagText trace], IsPlain l := by
  cases debug <;> cases trace <;> decide

def opening (c : ServerConfig) : List String :=
  ["port: " ++ portText c.clientPort, "http: " ++ portText c.httpPort,
    "debug: " ++ flagText c.debug, "trace: " ++ flagText c.trace] ++
  (match c.tls with
    | none => []
    | some t => "" :: t.lines "") ++
  ["", "cluster \x7b", "  port: " ++ portText c.clusterPort, "  routes = ["]

def closing (c : ServerConfig) : List String :=
  ["  ]"] ++
  (match c.clusterTls with
    | none => []
    | some t => t.lines "  ") ++
  ["\x7d"]

/-- The lines of the routes stand together, between those of everything else. -/
theorem lines_eq (c : ServerConfig) :
    c.lines = c.opening ++ (c.routes.map (routeLine c.clusterPort) ++ c.closing) := by
  unfold lines opening closing
  cases c.tls <;> cases c.clusterTls <;> simp only [List.append_assoc]

/-- No line before those of the routes can be taken for a route. -/
theorem plain_opening (spec : ClusterSpec) (routes : List String) :
    ∀ l ∈ (forCluster spec routes).opening, IsPlain l := by
  intro l hl
  simp only [opening, forCluster, List.mem_append] at hl
  rcases hl with (hl | hl) | hl
  -- The ports and flags, the files of the server's certificate, and the head of the route list.
  · have hflags := plain_flags (spec.logging.getD {}).debug (spec.logging.getD {}).trace
    simp only [List.mem_cons] at hl
    rcases hl with rfl | rfl | rfl | rfl | hl
    · exact plain_ports _ (by simp)
    · exact plain_ports _ (by simp)
    · exact hflags _ (by simp)
    · exact hflags _ (by simp)
    · simp at hl
  · cases hs : spec.serverSecret with
    | none => simp [hs] at hl
    | some s =>
      rw [hs] at hl
      exact plain_server_lines l hl
  · refine plain_ports l ?_
    simp only [List.mem_cons] at hl ⊢
    tauto

theorem plain_closing (spec : ClusterSpec) (routes : List String) :
    ∀ l ∈ (forCluster spec routes).closing, IsPlain l := by
  intro l hl
  simp only [closing, forCluster, List.mem_append] at hl
  rcases hl with (hl | hl) | hl
  · exact plain_ports l (by simp only [List.mem_cons] at hl ⊢; tauto)
  · cases hs : spec.routesSecret with
    | none => simp [hs] at hl
    | some s =>
      rw [hs] at hl
      exact plain_route_lines l hl
  · exact plain_ports l (by simp only [List.mem_cons] at hl ⊢; tauto)

/-- No address is read from such lines. -/
theorem filterMap_readRoute_plain (lines : List String) (h : ∀ l ∈ lines, IsPlain l) :
    (lines.map String.toList).filterMap readRoute = [] := by
  rw [List.filterMap_eq_nil_iff]
  intro line hline
  obtain ⟨l, hl, rfl⟩ := List.mem_map.mp hline
  exact (h l hl).1

/-- The routes of a document can be read back from its text. -/
theorem readRoutes_render (spec : ClusterSpec) (routes : List String)
    (h : ∀ r ∈ routes, '\n' ∉ r.toList) :
    readRoutes (forCluster spec routes).render = routes := by
  have hopening := plain_opening spec routes
  have hclosing := plain_closing spec routes
  have hroutes : ∀ l ∈ routes.map (routeLine Layout.clusterPort), '\n' ∉ l.toList := by
    intro l hl
    obtain ⟨r, hr, rfl⟩ := List.mem_map.mp hl
    rw [routeLine_toList, List.mem_append, List.mem_append]
    rintro (hlead | hroute | htail)
    · exact absurd hlead (by decide)
    · exact h r hr hroute
    · exact absurd htail (by decide)
  have hlines : ∀ l ∈ (forCluster spec routes).lines, '\n' ∉ l.toList := by
    intro l hl
    rw [lines_eq, List.mem_append, List.mem_append] at hl
    rcases hl with hl | hl | hl
    · exact (hopening l hl).2
    · exact hroutes l hl
    · exact (hclosing l hl).2
  have hempty : [[]].filterMap readRoute = [] := by decide
  -- Of all lines only those of the routes are read, and each gives its route.
  rw [readRoutes, render, splitOn_join _ hlines, lines_eq]
  simp only [List.map_append, List.filterMap_append, filterMap_readRoute_plain _ hopening,
    filterMap_readRoute_plain _ hclosing, hempty, List.nil_append, List.append_nil]
  rw [List.map_map, List.filterMap_map]
  exact (List.filterMap_congr fun r _ => readRoute_routeLine r).trans List.filterMap_some

/-- A text is a configuration that lists these routes: its block of routes has a line for each of them,
and they are all that is read from it, if none of them has a line feed in it. -/
structure Lists (text : String) (routes : List String) : Prop where
  rendered : ∃ spec, text = (forCluster spec routes).render
  block : ∃ front back, text = front ++ "  routes = [\n" ++
    String.join (routes.map fun route => "    nats://" ++ route ++ ":6222\n") ++ "  ]\n" ++ back
  read : (∀ route ∈ routes, '\n' ∉ route.toList) → readRoutes text = routes

/-- The text has the block of the routes in it, one line for each address. -/
theorem render_block (spec : ClusterSpec) (routes : List String) :
    ∃ front back, (forCluster spec routes).render = front ++ "  routes = [\n" ++
      String.join (routes.map fun route => "    nats://" ++ route ++ ":6222\n") ++ "  ]\n" ++ back := by
  have hopening : ∃ lines, (forCluster spec routes).opening = lines ++ ["  routes = ["] :=
    ⟨_, (List.append_assoc _ ["", "cluster \x7b", "  port: " ++ portText _] _).symm⟩
  have hclosing : ∃ lines, (forCluster spec routes).closing = "  ]" :: lines := ⟨_, rfl⟩
  obtain ⟨before, hopening⟩ := hopening
  obtain ⟨after, hclosing⟩ := hclosing
  have hport : portText (forCluster spec routes).clusterPort = "6222" := by
    show portText Layout.clusterPort = "6222"
    decide
  have hlines : (routes.map (routeLine (forCluster spec routes).clusterPort)).map (· ++ "\n") =
      routes.map fun route => "    nats://" ++ route ++ ":6222\n" := by
    rw [List.map_map]
    refine List.map_congr_left fun route _ => ?_
    simp only [Function.comp, routeLine, hport, String.append_assoc]
    rfl
  refine ⟨String.join (before.map (· ++ "\n")), String.join (after.map (· ++ "\n")), ?_⟩
  have hroutes : (forCluster spec routes).routes = routes := rfl
  rw [render, lines_eq, hopening, hclosing, hroutes, ← hlines]
  simp [String.append_assoc]

/-- The configuration of a cluster lists its routes. -/
theorem lists_render (spec : ClusterSpec) (routes : List String) :
    Lists (forCluster spec routes).render routes where
  rendered := ⟨spec, rfl⟩
  block := render_block spec routes
  read := readRoutes_render spec routes

end NatsFleet.ServerConfig
