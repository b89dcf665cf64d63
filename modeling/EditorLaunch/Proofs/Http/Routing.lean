import EditorLaunch.Proofs.Http.Admission
import EditorLaunch.Proofs.Http.Target

/-!
# Exact routing

A request reaches a route exactly if its normalized path is the root followed by the path
of the route.  That a handler runs means that the answer is what the handler gives,
whatever handlers stand behind the routes.  Slashes at the end and queries do not matter,
and below a root the paths of the routes alone lead nowhere: no path of a route ends with
the path of another.
-/

namespace EditorLaunch

namespace Http

namespace Route

/-- No path of a route ends with the path of another. -/
theorem eq_of_path_isSuffix {route other : Route} (suffix : other.path <:+ route.path) :
    other = route := by
  revert suffix
  cases route <;> cases other <;> decide

theorem ofPath?_eq_some_iff {root : String} {location : List Char} {route : Route} :
    ofPath? root location = some route ↔ location = base root ++ route.path := by
  constructor
  · intro found
    have same := List.find?_some found
    exact (beq_iff_eq.mp same).symm
  · rintro rfl
    have tests : (fun other : Route => base root ++ other.path == base root ++ route.path) =
        fun other => decide (other = route) := by
      funext other
      rw [Bool.eq_iff_iff, beq_iff_eq, decide_eq_true_iff, List.append_cancel_left_eq]
      constructor
      · intro same
        exact eq_of_path_isSuffix ⟨[], same⟩
      · rintro rfl
        rfl
    rw [ofPath?, tests]
    cases route <;> rfl

theorem path_ne_append {front : List Char} (filled : front ≠ []) (route other : Route) :
    route.path ≠ front ++ other.path := by
  intro same
  have suffix : other.path <:+ route.path := ⟨front, same.symm⟩
  obtain rfl := eq_of_path_isSuffix suffix
  exact filled (List.self_eq_append_left.mp same)

/-- A segment of a root: characters that fit a path, without signs that would make it a
parameter. -/
structure IsSegment (segment : List Char) : Prop where
  filled : segment ≠ []
  fits : ∀ letter ∈ segment, Target.fitsPath letter = true
  noSlash : '/' ∉ segment
  noBraces : '\x7b' ∉ segment ∧ '\x7d' ∉ segment
  noParameter : segment.head? ≠ some ':' ∧ segment.head? ≠ some '*'

/-- A root below which routes can stand: the slash, or segments with slashes in front. -/
def Mountable (root : String) : Prop :=
  root = "/" ∨ ∃ segments ≠ [], (∀ segment ∈ segments, IsSegment segment) ∧
    root.toList = segments.flatMap ('/' :: ·)

/-- A path that begins with one slash and does not end with one. -/
structure Solid (path : List Char) : Prop where
  rooted : ∃ first others, path = '/' :: first :: others ∧ first ≠ '/'
  noEnd : path.getLast? ≠ some '/'

theorem solid_path (route : Route) : Solid route.path := by
  cases route with
  | openFile => exact ⟨⟨_, _, rfl, by decide⟩, by decide⟩
  | health => exact ⟨⟨_, _, rfl, by decide⟩, by decide⟩
  | live => exact ⟨⟨_, _, rfl, by decide⟩, by decide⟩

theorem fitsPath_path (route : Route) :
    ∀ letter ∈ route.path, Target.fitsPath letter = true := by
  rw [← List.all_eq_true]
  cases route <;> decide

theorem Solid.ne_nil {path : List Char} (solid : Solid path) : path ≠ [] := by
  obtain ⟨first, others, rfl, -⟩ := solid.rooted
  exact List.cons_ne_nil _ _

theorem Solid.append {front path : List Char} (frontSolid : Solid front) (solid : Solid path) :
    Solid (front ++ path) := by
  obtain ⟨first, others, rfl, noSlash⟩ := frontSolid.rooted
  refine ⟨⟨first, others ++ path, rfl, noSlash⟩, ?_⟩
  rw [List.getLast?_append_of_ne_nil _ solid.ne_nil]
  exact solid.noEnd

theorem getLast?_flatMap_ne {segments : List (List Char)} (filled : segments ≠ [])
    (areSegments : ∀ segment ∈ segments, IsSegment segment) :
    (segments.flatMap ('/' :: ·)).getLast? ≠ some '/' := by
  induction segments with
  | nil => exact absurd rfl filled
  | cons segment rest ih =>
      have isSegment := areSegments segment List.mem_cons_self
      cases rest with
      | nil =>
          intro isSlash
          rw [List.flatMap_singleton, List.getLast?_cons_of_ne_nil isSegment.filled] at isSlash
          exact isSegment.noSlash (List.mem_of_getLast? isSlash)
      | cons next others =>
          rw [List.flatMap_cons, List.getLast?_append_of_ne_nil _ (by simp)]
          exact ih (List.cons_ne_nil _ _) fun other member =>
            areSegments other (List.mem_cons_of_mem _ member)

section Mountable

variable {root : String}

theorem Mountable.exists_segments (mountable : Mountable root) (below : root ≠ "/") :
    ∃ segments ≠ [], (∀ segment ∈ segments, IsSegment segment) ∧
      base root = segments.flatMap ('/' :: ·) := by
  rcases mountable with isSlash | ⟨segments, filled, areSegments, written⟩
  · exact absurd isSlash below
  · exact ⟨segments, filled, areSegments, by rw [base, if_neg below, written]⟩

theorem Mountable.solid_base (mountable : Mountable root) (below : root ≠ "/") :
    Solid (base root) := by
  obtain ⟨segments, filled, areSegments, written⟩ := mountable.exists_segments below
  rw [written]
  refine ⟨?_, getLast?_flatMap_ne filled areSegments⟩
  obtain ⟨segment, rest, rfl⟩ := List.exists_cons_of_ne_nil filled
  have isSegment := areSegments segment List.mem_cons_self
  obtain ⟨first, others, rfl⟩ := List.exists_cons_of_ne_nil isSegment.filled
  refine ⟨first, _, rfl, ?_⟩
  rintro rfl
  exact isSegment.noSlash List.mem_cons_self

theorem Mountable.solid (mountable : Mountable root) (route : Route) :
    Solid (base root ++ route.path) := by
  by_cases below : root = "/"
  · rw [base, if_pos below]
    exact solid_path route
  · exact (mountable.solid_base below).append (solid_path route)

theorem Mountable.fitsPath (mountable : Mountable root) (route : Route) :
    ∀ letter ∈ base root ++ route.path, Target.fitsPath letter = true := by
  intro letter member
  rcases List.mem_append.mp member with inBase | inPath
  · by_cases below : root = "/"
    · rw [base, if_pos below] at inBase
      cases inBase
    · obtain ⟨segments, -, areSegments, written⟩ := mountable.exists_segments below
      rw [written, List.mem_flatMap] at inBase
      obtain ⟨segment, isOne, inSegment⟩ := inBase
      rcases List.mem_cons.mp inSegment with rfl | inLetters
      · decide
      · exact (areSegments segment isOne).fits letter inLetters
  · exact fitsPath_path route letter inPath

end Mountable

end Route

namespace Target

theorem trimSlashes_append {path : List Char} (solid : Route.Solid path) (count : Nat) :
    '/' :: trimSlashes (path ++ List.replicate count '/') = path := by
  have slashes : ∀ letter ∈ (List.replicate count '/').reverse, (letter == '/') = true := by
    intro letter member
    rw [(List.mem_replicate.mp (List.mem_reverse.mp member)).2]
    rfl
  obtain ⟨first, others, rfl, noSlash⟩ := solid.rooted
  have front : ('/' :: first :: others ++ List.replicate count '/').dropWhile (· == '/') =
      first :: others ++ List.replicate count '/' := by
    simp [noSlash]
  have stays : (first :: others).reverse.dropWhile (· == '/') = (first :: others).reverse := by
    have noEnd : (first :: others).reverse.head? ≠ some '/' := by
      rw [List.head?_reverse]
      simpa using solid.noEnd
    cases reversed : (first :: others).reverse with
    | nil => rfl
    | cons last rest =>
        rw [reversed, List.head?_cons] at noEnd
        exact List.dropWhile_cons_of_neg (by simpa using noEnd)
  rw [trimSlashes, front, List.reverse_append, List.dropWhile_append_of_pos slashes, stays,
    List.reverse_reverse]

/-- Slashes at the end do not matter. -/
theorem path_normalized_of_solid {target : Target} {path : List Char} {count : Nat}
    (solid : Route.Solid path) (pathEq : target.path = path ++ List.replicate count '/') :
    target.normalized.path = path := by
  unfold normalized
  split
  · rw [pathEq]
    exact trimSlashes_append solid count
  · rename_i unchanged
    cases count with
    | zero => rw [pathEq, List.replicate_zero, List.append_nil]
    | succ count =>
        exfalso
        apply unchanged
        rw [pathEq, List.replicate_succ', ← List.append_assoc, List.getLast?_concat]
        rfl

end Target

namespace Service

variable {service : Service} {clock : Clock} {request : Request} {route : Route}

/-- An answer, or that of a timeout if it takes too long. -/
def cutOff (limit : Duration) (inner : Traced Call Response) : Traced Call Response := do
  match ← inner.within limit with
  | some response => return response
  | none =>
      Traced.log .warn ("Request timed out after " ++ limit.brief)
      return .plain 408 "Request timed out"

/-- The service with any handlers behind its routes. -/
def serveBy (service : Service) (handlers : Route → Traced Call Response)
    (request : Request) : Traced Call Response :=
  if request.method = "OPTIONS" then pure (service.preflight request)
  else
    surround request.method <| cutOff service.settings.web.requestTimeout <|
      match service.route? request with
      | none => pure (.empty 404)
      | some route =>
          if asks request.method then handlers route
          else pure ((Response.empty 405).withHeaders [Response.allowHeader])

theorem dispatchInTime_eq_cutOff (service : Service) (clock : Clock) (request : Request) :
    service.dispatchInTime clock request =
      cutOff service.settings.web.requestTimeout (service.dispatch clock request) := by
  unfold dispatchInTime cutOff
  generalize service.dispatch clock request = inner
  rfl

theorem serve_eq_serveBy (service : Service) (clock : Clock) (request : Request) :
    service.serve clock request =
      service.serveBy (fun route => service.handle clock route request) request := by
  unfold serveBy
  split
  · rename_i options
    rw [serve, if_pos options]
  · rename_i notOptions
    rw [serve_of_ne_options notOptions, dispatchInTime_eq_cutOff]
    refine congrArg (surround request.method <| cutOff _ ·) ?_
    unfold dispatch
    cases service.route? request <;> rfl

/-- The handler of a route runs: whatever handlers there are, the answer is what this one
gives, in the time that it may take and with what stands around every answer. -/
def Runs (service : Service) (request : Request) (route : Route) : Prop :=
  ∀ handlers, service.serveBy handlers request =
    surround request.method (cutOff service.settings.web.requestTimeout (handlers route))

theorem cutOff_pure (limit : Duration) (response : Response) :
    cutOff limit (pure response) = pure response := by
  rw [cutOff, Traced.within_of_le (Nat.zero_le _)]
  rfl

theorem serveBy_of_routed (get : request.method = "GET")
    (routed : service.route? request = some route) (handlers : Route → Traced Call Response) :
    service.serveBy handlers request =
      surround request.method
        (cutOff service.settings.web.requestTimeout (handlers route)) := by
  have notOptions : request.method ≠ "OPTIONS" := by rw [get]; decide
  have asked : asks request.method = true := by rw [get]; decide
  rw [serveBy, if_neg notOptions, routed]
  simp only [asked, if_true]

theorem serveBy_of_unrouted (get : request.method = "GET")
    (unrouted : service.route? request = none) (handlers : Route → Traced Call Response) :
    service.serveBy handlers request = surround request.method (pure (.empty 404)) := by
  have notOptions : request.method ≠ "OPTIONS" := by rw [get]; decide
  rw [serveBy, if_neg notOptions, unrouted]
  simp only [cutOff_pure]

theorem runs_iff (get : request.method = "GET") :
    service.Runs request route ↔ service.route? request = some route := by
  constructor
  · intro runs
    -- a handler with a status of its own shows whether it has run
    have marked := congrArg (fun trace : Traced Call Response => trace.result.status)
      (runs fun other => pure (.empty (if other = route then 299 else 298)))
    cases routed : service.route? request with
    | none =>
        rw [serveBy_of_unrouted get routed] at marked
        simp [cutOff_pure, Response.empty] at marked
    | some found =>
        rw [serveBy_of_routed get routed] at marked
        by_cases same : found = route
        · rw [same]
        · simp [cutOff_pure, Response.empty, same] at marked
  · intro routed handlers
    exact serveBy_of_routed get routed handlers

/-- Nothing is found: the status says so, the body is empty, and nothing was called. -/
def FindsNothing (service : Service) (request : Request) : Prop :=
  ∀ clock, (service.serve clock request).result.status = 404 ∧
    (service.serve clock request).result.body = "" ∧ (service.serve clock request).calls = []

theorem findsNothing_of_unrouted (get : request.method = "GET")
    (unrouted : service.route? request = none) : service.FindsNothing request := by
  intro clock
  rw [serve_eq_serveBy, serveBy_of_unrouted get unrouted, calls_surround, result_surround,
    Response.status_leaving, Response.body_leaving, get]
  exact ⟨rfl, rfl, rfl⟩

theorem route?_eq_some_iff :
    service.route? request = some route ↔
      request.target.normalized.path =
        Route.base service.settings.web.normalizedRoot ++ route.path :=
  Route.ofPath?_eq_some_iff

theorem findsNothing_of_ne (get : request.method = "GET")
    (elsewhere : ∀ route : Route, request.target.normalized.path ≠
      Route.base service.settings.web.normalizedRoot ++ route.path) :
    service.FindsNothing request := by
  apply findsNothing_of_unrouted get
  cases routed : service.route? request with
  | none => rfl
  | some route => exact absurd (route?_eq_some_iff.mp routed) (elsewhere route)

/-- An address of a route: its path below the root, slashes, and a query or none. -/
def addressOf (service : Service) (route : Route) (count : Nat) (query? : Option (List Char)) :
    String :=
  String.ofList (Route.base service.settings.web.normalizedRoot ++ route.path ++
    List.replicate count '/' ++ Url.optional '?' query?)

theorem build?_addressOf (mountable : Route.Mountable service.settings.web.normalizedRoot)
    (count : Nat) {query? : Option (List Char)} (headers : Headers)
    (queryFits : ∀ query ∈ query?, ∀ letter ∈ query, Target.fitsQuery letter = true)
    (short : (addressOf service route count query?).utf8ByteSize ≤ Target.longest) :
    Request.build? "GET" (addressOf service route count query?) headers =
      some ⟨"GET", ⟨Route.base service.settings.web.normalizedRoot ++ route.path ++
        List.replicate count '/', query?⟩, headers⟩ := by
  have fits : ∀ letter ∈ Route.base service.settings.web.normalizedRoot ++ route.path ++
      List.replicate count '/', Target.fitsPath letter = true := by
    intro letter member
    rcases List.mem_append.mp member with inPath | inSlashes
    · exact mountable.fitsPath route letter inPath
    · rw [(List.mem_replicate.mp inSlashes).2]
      decide
  have slash : (Route.base service.settings.web.normalizedRoot ++ route.path ++
      List.replicate count '/').head? = some '/' := by
    obtain ⟨first, others, starts, -⟩ := (mountable.solid route).rooted
    rw [starts]
    rfl
  have isMethod : isMethod "GET" = true := by decide
  rw [addressOf] at short ⊢
  rw [Request.build?, Target.ofText?_path slash fits queryFits short]
  simp only [Option.bind_eq_bind, Option.bind_some, isMethod, if_true]

theorem runs_of_slashes (mountable : Route.Mountable service.settings.web.normalizedRoot)
    (get : request.method = "GET") {count : Nat}
    (pathEq : request.target.path = Route.base service.settings.web.normalizedRoot ++
      route.path ++ List.replicate count '/') : service.Runs request route := by
  rw [runs_iff get, route?_eq_some_iff]
  exact Target.path_normalized_of_solid (mountable.solid route) pathEq

/-- A request to get something is answered by the handler whose path below the root is
the normalized path of the request, and without one nothing is found.  Every route is
reached with any number of slashes and any query behind its path, also by addresses that
are read, and it is not reached by its path alone if the root is more than a slash. -/
theorem serve_routes_exactly {service : Service}
    (mountable : Route.Mountable service.settings.web.normalizedRoot) :
    (∀ clock request, service.serve clock request =
      service.serveBy (fun route => service.handle clock route request) request) ∧
    (∀ request, request.method = "GET" →
      (∀ route, service.Runs request route ↔
        request.target.normalized.path =
          Route.base service.settings.web.normalizedRoot ++ route.path) ∧
      ((∀ route : Route, request.target.normalized.path ≠
          Route.base service.settings.web.normalizedRoot ++ route.path) →
        service.FindsNothing request)) ∧
    (∀ request route count, request.method = "GET" →
      request.target.path = Route.base service.settings.web.normalizedRoot ++ route.path ++
        List.replicate count '/' →
      service.Runs request route) ∧
    (∀ route count query? headers,
      (∀ query ∈ query?, ∀ letter ∈ query, Target.fitsQuery letter = true) →
      (addressOf service route count query?).utf8ByteSize ≤ Target.longest →
      ∃ request, Request.build? "GET" (addressOf service route count query?) headers =
          some request ∧
        request.target.query? = query? ∧ service.Runs request route) ∧
    (service.settings.web.normalizedRoot ≠ "/" →
      ∀ request (route : Route) count, request.method = "GET" →
        request.target.path = route.path ++ List.replicate count '/' →
        service.FindsNothing request) := by
  refine ⟨service.serve_eq_serveBy, fun request get => ⟨fun route => ?_, ?_⟩,
    fun request route count get => runs_of_slashes mountable get,
    fun route count query? headers queryFits short => ?_,
    fun below request route count get pathEq => ?_⟩
  · rw [runs_iff get, route?_eq_some_iff]
  · exact findsNothing_of_ne get
  · exact ⟨_, build?_addressOf mountable count headers queryFits short, rfl,
      runs_of_slashes mountable rfl rfl⟩
  · apply findsNothing_of_ne get
    intro other
    rw [Target.path_normalized_of_solid (Route.solid_path route) pathEq]
    exact Route.path_ne_append (mountable.solid_base below).ne_nil route other

/-- A service whose routes stand under a segment. -/
def officeService : Service :=
  { forwardingService with
    settings := { forwardingService.settings with web := { root := "/office/" } } }

theorem mountable_office : Route.Mountable officeService.settings.web.normalizedRoot := by
  refine .inr ⟨["office".toList], by decide, ?_, by decide⟩
  intro segment member
  rw [List.mem_singleton.mp member]
  exact ⟨by decide, List.all_eq_true.mp (by decide), by decide, by decide, by decide⟩

theorem office_health_runs :
    Route.Mountable officeService.settings.web.normalizedRoot ∧
      officeService.Runs ⟨"GET", ⟨"/office/health//".toList, some "x".toList⟩, []⟩ .health ∧
      officeService.FindsNothing ⟨"GET", ⟨"/health/".toList, none⟩, []⟩ := by
  obtain ⟨-, -, reached, -, bare⟩ := serve_routes_exactly mountable_office
  refine ⟨mountable_office, reached _ .health 2 rfl (by decide), ?_⟩
  exact bare (by decide) _ .health 1 rfl (by decide)

end Service

end Http

end EditorLaunch
