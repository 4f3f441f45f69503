import AdExchange.Proofs.Auction.Stages
import AdExchange.Proofs.Category.Unseen

/-!
# What the runtime says of a crash is only passed on

If an adapter crashes, the response of its partner ends up with one error, in the words of the
runtime: these name the task, and tasks are numbered throughout the life of the process.  No stage
of an auction looks at these words.  An auction in which they are others makes the same calls, ends
at the same time, leaves the same record and comes to the same but for the words.

## Main statements

* `Exchange.holdAuction_withReports` — what other words are seen in.
-/

namespace AdExchange

/-! ## Errors and responses -/

namespace PartnerError

/-- The error without what the runtime says of a crash. -/
def withoutReport : PartnerError → PartnerError
  | .adapterCrashed _ => .adapterCrashed ""
  | e => e

@[simp] theorem withoutReport_withoutReport (e : PartnerError) :
    e.withoutReport.withoutReport = e.withoutReport := by
  cases e <;> rfl

@[simp] theorem kind_withoutReport (e : PartnerError) : e.withoutReport.kind = e.kind := by
  cases e <;> rfl

end PartnerError

namespace PartnerResponse

/-- The response without what the runtime says of crashes. -/
def withoutReports (r : PartnerResponse) : PartnerResponse :=
  { r with errors := r.errors.map PartnerError.withoutReport }

theorem leavesBids_withoutReports : LeavesBids withoutReports :=
  ⟨fun _ => rfl, fun _ => rfl, fun _ _ => rfl⟩

/-- The errors that are added when prices are brought to one currency come behind those that are
there. -/
theorem withoutReports_settle (s : Settlement) (catalog : Catalog) (default : String)
    (warning : Option PartnerError) (r : PartnerResponse) :
    (r.withoutReports.settle s catalog default warning).withoutReports =
      (r.settle s catalog default warning).withoutReports := by
  simp [withoutReports, settle, Function.comp_def]

end PartnerResponse

theorem PartnerLog.of_withoutReports (r : PartnerResponse) :
    PartnerLog.of r.withoutReports = PartnerLog.of r := by
  simp [PartnerLog.of, PartnerLog.statusOf, PartnerResponse.withoutReports, Function.comp_def]

theorem AuctionLog.foldl_addPartner_withoutReports (log : AuctionLog)
    (responses : List PartnerResponse) :
    (responses.map PartnerResponse.withoutReports).foldl addPartner log =
      responses.foldl addPartner log := by
  rw [List.foldl_map]
  congr 1
  funext log r
  rw [addPartner, PartnerLog.of_withoutReports, addPartner]

/-- What a partner has answered, whatever the runtime says of it. -/
theorem PartnerTurn.withoutReports_response (t : PartnerTurn) (total : Nat)
    (report report' : String) :
    (t.response total report).withoutReports = (t.response total report').withoutReports := by
  simp only [response]
  split <;> rfl

theorem withoutReports_normalize (rates : Rates) (default : String) (request : BidRequest)
    (catalog : Catalog) (responses : List PartnerResponse) :
    (normalize rates default request catalog (responses.map .withoutReports)).map
        PartnerResponse.withoutReports =
      (normalize rates default request catalog responses).map .withoutReports := by
  simp only [normalize, List.map_map]
  exact List.map_congr_left fun r _ => r.withoutReports_settle ..

/-- The same partners are asked in the same time and make the same answers but for the words. -/
theorem withoutReports_dispatch (catalog : Catalog) (adapters : Adapters) (transport : Transport)
    (now : Nat) (earlier : List HttpCall) (requests : List PartnerRequest)
    (reports reports' : Nat → String) :
    (dispatch catalog adapters transport now earlier requests reports).responses.map
        PartnerResponse.withoutReports =
      (dispatch catalog adapters transport now earlier requests reports').responses.map
        .withoutReports := by
  refine List.ext_getElem? fun i => ?_
  simp only [dispatch, List.getElem?_map, List.getElem?_mapIdx, Option.map_map]
  congr 1
  funext t
  exact t.withoutReports_response _ _ _

/-! ## The response -/

namespace Json

def modify (v : Json) (key : String) (f : Json → Json) : Json :=
  match v with
  | .object fields => .object (Dictionary.modify fields key f)
  | v => v

theorem modify_ofFields (fields : List (String × Option Json)) (key : String) (f : Json → Json) :
    (ofFields fields).modify key f =
      ofFields (fields.map fun e => (e.1, if e.1 = key then e.2.map f else e.2)) := by
  simp only [ofFields, modify, Dictionary.modify_ofList, List.map_filterMap, List.filterMap_map]
  congr 2
  refine congrArg (List.filterMap · fields) (funext fun e => ?_)
  obtain ⟨k, v⟩ := e
  cases v <;> by_cases h : k = key <;> simp [h]

def mapMembers (f : Json → Json) : Json → Json
  | .object fields => .object (Dictionary.mapValues f fields)
  | v => v

def mapItems (f : Json → Json) : Json → Json
  | .array items => .array (items.map f)
  | v => v

/-- The string without what the runtime says of a crash. -/
def cutReport : Json → Json
  | .string s =>
    if PartnerError.crashLead.toList <+: s.toList then .string PartnerError.crashLead else .string s
  | v => v

/-- The errors by partner, without what the runtime says of crashes. -/
def cutReports : Json → Json := mapMembers (mapItems (·.modify "message" cutReport))

theorem cutReport_message (e : PartnerError) :
    cutReport (.string e.withoutReport.message) = cutReport (.string e.message) := by
  have hcut : ∀ report, cutReport (.string (PartnerError.adapterCrashed report).message) =
      .string PartnerError.crashLead := by
    intro report
    have hprefix : PartnerError.crashLead.toList <+: (PartnerError.crashLead ++ report).toList := by
      rw [String.toList_append]
      exact List.prefix_append _ _
    exact if_pos hprefix
  cases e with
  | adapterCrashed report => rw [PartnerError.withoutReport, hcut, hcut]
  | _ => simp only [PartnerError.withoutReport]

end Json

theorem modify_notice (code : Nat) (message : String) :
    (notice code message).modify "message" Json.cutReport =
      .object [("code", .nat code), ("message", Json.cutReport (.string message))] := rfl

theorem cutReports_errorNotices (responses : List PartnerResponse) :
    Json.cutReports (.object (errorNotices (responses.map .withoutReports))) =
      Json.cutReports (.object (errorNotices responses)) := by
  have hfilter :
      (responses.map PartnerResponse.withoutReports).filter (fun r => !r.errors.isEmpty) =
        (responses.filter fun r => !r.errors.isEmpty).map .withoutReports := by
    simp [List.filter_map, PartnerResponse.withoutReports, Function.comp_def]
  simp only [Json.cutReports, Json.mapMembers, errorNotices, hfilter, Dictionary.mapValues_ofList,
    List.map_map]
  congr 2
  refine List.map_congr_left fun r _ => ?_
  simp [Json.mapItems, modify_notice, Json.cutReport_message, PartnerResponse.withoutReports]

/-- The response without what the runtime says of crashes. -/
def BidResponse.withoutCrashReports (r : BidResponse) : BidResponse :=
  { r with ext := r.ext.map (·.modify "errors" Json.cutReports) }

/-- What the runtime says of crashes is seen in nothing but the errors of the response. -/
theorem withoutCrashReports_assemble (input : AssemblyInput) :
    (assemble { input with responses := input.responses.map .withoutReports }).withoutCrashReports =
      (assemble input).withoutCrashReports := by
  have hempty : (errorNotices (input.responses.map .withoutReports)).isEmpty =
      (errorNotices input.responses).isEmpty := by
    have h := cutReports_errorNotices input.responses
    simp only [Json.cutReports, Json.mapMembers, Json.object.injEq, Dictionary.mapValues] at h
    rw [← List.isEmpty_map, h, List.isEmpty_map]
  have hext : (responseExt { input with responses := input.responses.map .withoutReports }).modify
        "errors" Json.cutReports =
      (responseExt input).modify "errors" Json.cutReports := by
    have hlatencies : latencies (input.responses.map .withoutReports) =
        latencies input.responses := by
      simp only [latencies, List.map_map]
      rfl
    simp only [responseExt, Json.modify_ofFields, List.map_cons, List.map_nil, hempty, hlatencies,
      if_true]
    congr 3
    split
    · rfl
    · simp only [Option.map_some, cutReports_errorNotices]
  simp only [assemble, BidResponse.withoutCrashReports, Option.map_some, hext, List.filterMap_map]
  rfl

/-! ## The auction -/

/-- Two auctions make the same calls, end at the same time and leave the same record.  They come to
the same but for what the runtime says of crashes. -/
structure AuctionRun.SameButForReports (a b : AuctionRun) : Prop where
  outcome : a.outcome.map BidResponse.withoutCrashReports =
    b.outcome.map BidResponse.withoutCrashReports
  log : a.log = b.log
  finished : a.finished = b.finished
  calls : a.calls = b.calls

namespace Exchange

/-- The exchange, where the runtime says this of the tasks that crash. -/
def withReports (x : Exchange) (reports : Nat → String) : Exchange :=
  { x with texts := { x.texts with crash := reports } }

variable {x : Exchange} {reports : Nat → String} {now : Nat} {earlier : List HttpCall}
  {request : BidRequest} {context : AuctionContext} {deadline : Deadline} {s : ScopedRequests}

theorem withoutReports_answers :
    ((x.withReports reports).answers now earlier request s).map PartnerResponse.withoutReports =
      (x.answers now earlier request s).map .withoutReports := by
  have hdispatched : ((x.withReports reports).dispatched now earlier s).responses.map
        PartnerResponse.withoutReports =
      (x.dispatched now earlier s).responses.map .withoutReports := withoutReports_dispatch ..
  calc ((x.withReports reports).answers now earlier request s).map PartnerResponse.withoutReports
      = (normalize x.rates x.config.defaultCurrency request x.catalog
          (((x.withReports reports).dispatched now earlier s).responses.map .withoutReports)).map
            .withoutReports := (withoutReports_normalize ..).symm
    _ = (x.answers now earlier request s).map .withoutReports := by
      rw [hdispatched, withoutReports_normalize, answers]

theorem withoutReports_mapped :
    ((x.withReports reports).mapped now earlier request deadline s).map
        (·.mapResponses .withoutReports) =
      (x.mapped now earlier request deadline s).map (·.mapResponses .withoutReports) :=
  mapResponses_congr PartnerResponse.leavesBids_withoutReports withoutReports_answers
    fun _ _ _ => rfl

theorem withoutCrashReports_respond {tmax : Nat} {warnings : List ScopeWarning}
    {m m' : CategoryMapping}
    (h : m'.mapResponses .withoutReports = m.mapResponses .withoutReports) :
    (x.respond request tmax warnings m').withoutCrashReports =
      (x.respond request tmax warnings m).withoutCrashReports := by
  have hown : ∀ m : CategoryMapping,
      (x.respond request tmax warnings m).withoutCrashReports =
        (x.respond request tmax warnings (m.mapResponses .withoutReports)).withoutCrashReports :=
    fun _ => (withoutCrashReports_assemble _).symm
  rw [hown m', h, ← hown]

/-- An auction in which the runtime says something else of the tasks that crash is the same but for
these words. -/
theorem holdAuction_withReports (x : Exchange) (reports : Nat → String) (now : Nat)
    (earlier : List HttpCall) (request : BidRequest) (context : AuctionContext) :
    ((x.withReports reports).holdAuction now earlier request context).SameButForReports
      (x.holdAuction now earlier request context) := by
  cases hasked : x.asked now request context with
  | error e =>
    have hasked' : (x.withReports reports).asked now request context = .error e := hasked
    rw [holdAuction_of_error hasked, holdAuction_of_error hasked']
    exact ⟨rfl, rfl, rfl, rfl⟩
  | ok asked =>
    obtain ⟨deadline, s⟩ := asked
    have hasked' : (x.withReports reports).asked now request context = .ok (deadline, s) := hasked
    have hlog : ∀ log, ((x.withReports reports).answers now earlier request s).foldl
        AuctionLog.addPartner log =
          (x.answers now earlier request s).foldl AuctionLog.addPartner log := by
      intro log
      rw [← AuctionLog.foldl_addPartner_withoutReports, withoutReports_answers,
        AuctionLog.foldl_addPartner_withoutReports]
    rw [holdAuction_of_ok hasked, holdAuction_of_ok hasked']
    dsimp only
    rw [hlog]
    rcases except_map_eq_map_cases withoutReports_mapped with
      ⟨fault, hmapped', hmapped⟩ | ⟨m', m, hmapped', hmapped, hm⟩
    · rw [hmapped', hmapped]
      exact ⟨rfl, rfl, rfl, rfl⟩
    · have hdelay : m'.delay = m.delay := congrArg (·.delay) hm
      have hvalue : m'.value.mapResponses .withoutReports = m.value.mapResponses .withoutReports :=
        congrArg (·.value) hm
      have hresponse :
          (x.respond request (x.tmax request context) s.warnings m'.value).withoutCrashReports =
            (x.respond request (x.tmax request context) s.warnings m.value).withoutCrashReports :=
        withoutCrashReports_respond hvalue
      have hseats : (x.respond request (x.tmax request context) s.warnings m'.value).seatBids =
          (x.respond request (x.tmax request context) s.warnings m.value).seatBids :=
        congrArg (·.seatBids) hresponse
      have hrejections : m'.value.rejections = m.value.rejections :=
        congrArg (·.rejections) hvalue
      rw [hmapped', hmapped]
      refine ⟨congrArg Except.ok hresponse, ?_, congrArg (_ + ·) hdelay, rfl⟩
      dsimp only
      rw [hrejections, hdelay, ← hseats]
      rfl

end Exchange

end AdExchange
