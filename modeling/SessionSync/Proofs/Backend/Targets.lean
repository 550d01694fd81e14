import SessionSync.Backend.Request
import SessionSync.Proofs.Backend.Address

/-!
# Where calls about a session go

A call about a session asks for the path `api`, `sessions`, the id of the session as one
percent-encoded segment, and a suffix that says what is wanted.  The id cannot leave its
segment by a slash, a question mark or a number sign: these are escaped.  Dots are not, and
an id that is one or two dots is a dot segment, which the address resolves away.  So for all
other ids the call goes where it should (`Errand.landing`), and for these two it asks for
something else, which may be what a call about another session asks for (`Errand.confused`).
-/

set_option autoImplicit false

namespace SessionSync.Backend

/-! ## The backend's address -/

/-- The slashes at the end of an address do not count, and the address of a site has none. -/
theorem base_of_site (config : Config) (site : Site) (slashes : Nat) :
    base { config with baseUrl := site.text ++ String.ofList (List.replicate slashes '/') } =
      .ok site.text := by
  have digits : (toString site.port).toList = Nat.toDigits 10 site.port.toNat := Nat.toList_repr
  have slash : ∀ char ∈ Nat.toDigits 10 site.port.toNat, (char == '/') = false := by
    intro char member
    have digit := Nat.isDigit_of_mem_toDigits (by decide) (by decide) member
    exact beq_false_of_ne fun same => by rw [same] at digit; cases digit
  have trimmed : Channel.trimSlashes
      (site.text ++ String.ofList (List.replicate slashes '/')) = site.text := by
    unfold Channel.trimSlashes
    rw [String.toList_append, String.toList_ofList, List.reverse_append, List.reverse_replicate,
      List.dropWhile_append_of_pos fun char member => by
        rw [List.eq_of_mem_replicate member]
        rfl]
    have kept : site.text.toList.reverse.dropWhile (fun char => char == '/') =
        site.text.toList.reverse := by
      rcases List.eq_nil_or_concat (Nat.toDigits 10 site.port.toNat) with none | ⟨front, last, split⟩
      · exact absurd none Nat.toDigits_ne_nil
      · have final := slash last (by rw [split]; simp)
        unfold Site.text Site.authority
        rw [String.toList_append, String.toList_append, String.toList_append, digits, split,
          List.concat_eq_append]
        simp only [List.reverse_append, List.reverse_cons, List.reverse_nil, List.nil_append,
          List.cons_append, List.dropWhile_cons, final, Bool.false_eq_true, if_false]
    rw [kept, List.reverse_reverse, String.ofList_toList]
  unfold base Config.apiBase
  dsimp only
  rw [trimmed]
  have scheme : (site.text.startsWith "http://" || site.text.startsWith "https://") = true := by
    rw [Bool.or_eq_true, String.startsWith_string_iff, String.startsWith_string_iff]
    unfold Site.text Site.scheme
    cases site.secure with
    | true => exact Or.inr (by rw [String.toList_append]; exact List.prefix_append _ _)
    | false => exact Or.inl (by rw [String.toList_append]; exact List.prefix_append _ _)
  rw [if_pos scheme]

/-! ## Errands -/

/-- What can be asked about one session. -/
inductive Errand where
  | fetch
  | start
  | messages (limit offset : Nat)
  deriving DecidableEq, Repr

namespace Errand

/-- The call of an errand about a session. -/
def call (sessionId : String) : Errand → Call
  | fetch => .fetchSession sessionId
  | start => .startSession sessionId
  | messages limit offset => .fetchMessages sessionId limit offset

/-- The segments behind the session. -/
def suffix : Errand → List String
  | fetch => []
  | start => ["start"]
  | messages _ _ => ["messages"]

/-- The segments that are written for an errand. -/
def written (sessionId : String) (errand : Errand) : List String :=
  "api" :: "sessions" :: Text.percentEncode sessionId :: errand.suffix

/-- What an errand asks for behind the path. -/
def question : Errand → String
  | fetch | start => ""
  | messages limit offset => "?limit=" ++ toString limit ++ "&offset=" ++ toString offset

/-- What is left behind a directory: the suffix, or an empty segment. -/
def ending (errand : Errand) : List String :=
  if errand.suffix.isEmpty then [""] else errand.suffix

/-- The segments that an errand ends up with. -/
def landing (sessionId : String) (errand : Errand) : List String :=
  if sessionId = ".." then "api" :: errand.ending
  else if sessionId = "." then "api" :: "sessions" :: errand.ending
  else errand.written sessionId

/-- Errands about different sessions that ask for the same. -/
def confused : List ((Errand × String) × Errand × String) :=
  [((fetch, "."), fetch, ""), ((start, "."), fetch, "start")]

variable (errand : Errand) (sessionId : String)

theorem path_call : (errand.call sessionId).path = Address.joined (errand.written sessionId) := by
  rw [← String.toList_inj, Address.toList_joined]
  unfold call Call.path written suffix
  cases errand <;>
    simp only [List.map_cons, List.map_nil, List.intercalate_cons_cons, List.intercalate_singleton,
      String.toList_append, List.append_assoc] <;>
    rfl

theorem written_ne_nil : errand.written sessionId ≠ [] := List.cons_ne_nil _ _

/-- The segments that no id is in. -/
theorem mem_suffix {piece : String} (listed : piece ∈ "api" :: "sessions" :: errand.suffix) :
    piece ∈ ["api", "sessions", "start", "messages"] := by
  unfold suffix at listed
  cases errand <;> simp_all <;> tauto

theorem isWritten_of_mem_written : ∀ piece ∈ errand.written sessionId, ∀ char ∈ piece.toList,
    Text.isWritten char = true := by
  have checked : ∀ piece ∈ ["api", "sessions", "start", "messages"],
      piece.toList.all Text.isWritten = true := by decide
  have fixed : ∀ piece ∈ ["api", "sessions", "start", "messages"], ∀ char ∈ piece.toList,
      Text.isWritten char = true := fun piece listed => List.all_eq_true.1 (checked piece listed)
  intro piece listed
  rcases List.mem_cons.1 listed with rfl | listed
  · exact fixed _ (by decide)
  · rcases List.mem_cons.1 listed with rfl | listed
    · exact fixed _ (by decide)
    · rcases List.mem_cons.1 listed with rfl | listed
      · exact fun char member => Text.isWritten_of_mem_percentEncode member
      · exact fixed _ (errand.mem_suffix (List.mem_cons_of_mem _ (List.mem_cons_of_mem _ listed)))

theorem proper_of_mem_fixed : ∀ piece ∈ ["api", "sessions", "start", "messages"],
    Address.isHere piece = false ∧ Address.isParent piece = false := by
  have other : ∀ piece ∈ ["api", "sessions", "start", "messages"],
      Text.percentDecode piece.toList ≠ [0x2E] ∧ Text.percentDecode piece.toList ≠ [0x2E, 0x2E] := by
    decide
  exact fun piece listed =>
    Address.proper_of_percentDecode (other piece listed).1 (other piece listed).2

/-- **The way of a path**: the segment of the id is resolved like any other. -/
theorem resolve_written :
    Address.resolve [] (errand.written sessionId) = errand.landing sessionId := by
  have suffixes : ∀ piece ∈ errand.suffix,
      Address.isHere piece = false ∧ Address.isParent piece = false := fun piece listed =>
    proper_of_mem_fixed piece
      (errand.mem_suffix (List.mem_cons_of_mem _ (List.mem_cons_of_mem _ listed)))
  have api := proper_of_mem_fixed "api" (by decide)
  have sessions := proper_of_mem_fixed "sessions" (by decide)
  unfold landing written
  rw [Address.resolve, api.1, api.2]
  simp only [Bool.false_eq_true, if_false]
  rw [Address.resolve, sessions.1, sessions.2]
  simp only [Bool.false_eq_true, if_false]
  rw [Address.resolve]
  simp only [Address.isParent_percentEncode_iff, Address.isHere_percentEncode_iff,
    Address.resolve_of_proper _ suffixes]
  split
  · cases errand <;> rfl
  · split
    · cases errand <;> rfl
    · rfl

theorem landing_ne_nil : errand.landing sessionId ≠ [] := by
  unfold landing
  split
  · exact List.cons_ne_nil _ _
  · split
    · exact List.cons_ne_nil _ _
    · exact List.cons_ne_nil _ _

theorem isWritten_of_mem_landing : ∀ piece ∈ errand.landing sessionId, ∀ char ∈ piece.toList,
    Text.isWritten char = true := by
  intro piece listed
  rw [← resolve_written] at listed
  rcases Address.mem_resolve listed with rfl | none | listed
  · exact fun _ none => by cases none
  · cases none
  · exact errand.isWritten_of_mem_written sessionId piece listed

/-! ## Requests -/

/-- What an errand asks for. -/
def target : String := Address.joined (errand.landing sessionId) ++ errand.question

/-- The request of an errand, in full. -/
theorem request?_call (site : Site) :
    (errand.call sessionId).request? site.text =
      some { authority := site.authority
             method := (errand.call sessionId).method
             target := errand.target sessionId
             body := (errand.call sessionId).body } := by
  have address := site.ofText?_joined (errand.written_ne_nil sessionId)
    (errand.isWritten_of_mem_written sessionId)
  rw [errand.resolve_written, ← errand.path_call] at address
  unfold Call.request? Call.address? target
  rw [address]
  cases errand with
  | fetch => simp [call, Call.parameters, Address.target, question]
  | start => simp [call, Call.parameters, Address.target, question]
  | messages limit offset =>
      simp [call, Call.parameters, Address.target, Address.withParameters, question,
        ← String.toList_inj]

end Errand

/-- The segments of the path of a target. -/
def places (target : String) : List String :=
  Address.segments ((target.toList.takeWhile fun char => char != '?').drop 1)

namespace Errand

variable (errand : Errand) (sessionId : String)

theorem no_question_in_path : ∀ char ∈ (Address.joined (errand.landing sessionId)).toList,
    (char != '?') = true := by
  intro char member
  rcases Address.mem_joined member with rfl | ⟨piece, listed, inside⟩
  · rfl
  · have written := errand.isWritten_of_mem_landing sessionId piece listed char inside
    exact bne_iff_ne.2 (Address.of_isWritten written).1.2.2.1

theorem toList_question : errand.question.toList = [] ∨
    ∃ rest, errand.question.toList = '?' :: rest := by
  cases errand with
  | fetch => exact Or.inl rfl
  | start => exact Or.inl rfl
  | messages limit offset =>
      refine Or.inr ⟨("limit=" ++ toString limit ++ "&offset=" ++ toString offset).toList, ?_⟩
      simp [question, String.toList_append]

theorem places_target : places (errand.target sessionId) = errand.landing sessionId := by
  have question : errand.question.toList.takeWhile (fun char => char != '?') = [] := by
    rcases errand.toList_question with nothing | ⟨rest, asked⟩
    · rw [nothing, List.takeWhile_nil]
    · rw [asked]
      rfl
  unfold places target
  rw [String.toList_append, List.takeWhile_append_of_pos (errand.no_question_in_path sessionId),
    question, List.append_nil, Address.toList_joined, List.drop_one, List.tail_cons]
  refine Address.segments_intercalate (errand.landing_ne_nil sessionId) ?_
  intro piece listed char member
  exact (Address.of_isWritten (errand.isWritten_of_mem_landing sessionId piece listed char member)).1.2.1

/-- What is asked behind the path is seen in the target. -/
theorem dropWhile_target :
    (errand.target sessionId).toList.dropWhile (fun char => char != '?') =
      errand.question.toList := by
  unfold target
  rw [String.toList_append, List.dropWhile_append_of_pos (errand.no_question_in_path sessionId)]
  rcases errand.toList_question with nothing | ⟨rest, asked⟩
  · rw [nothing, List.dropWhile_nil]
  · rw [asked]
    rfl

/-! ## Errands that ask for the same -/

theorem ending_ne_sessions (rest : List String) : errand.ending ≠ "sessions" :: rest := by
  cases errand <;> simp [ending, suffix]

theorem question_messages_ne (limit offset : Nat) : (messages limit offset).question ≠ "" := by
  simp [question]

/-- Only one dot lets a segment go missing, and where it does the ends are confused. -/
theorem ending_eq {other : Errand} {otherId : String} (question : other.question = errand.question)
    (same : Text.percentEncode otherId :: other.suffix = errand.ending) :
    ((errand, "."), other, otherId) ∈ confused := by
  have empty : Text.percentEncode "" = "" :=
    Text.percentEncodeWith_of_plain (Text.forall_of_all (by decide))
  have start : Text.percentEncode "start" = "start" :=
    Text.percentEncodeWith_of_plain (Text.forall_of_all (by decide))
  have last : other.suffix = [] := by
    have single : errand.ending.length = 1 := by cases errand <;> rfl
    rw [← same] at single
    exact List.length_eq_zero_iff.1 (Nat.succ.inj single)
  obtain rfl : other = fetch := by
    cases other with
    | fetch => rfl
    | start => cases last
    | messages limit offset => cases last
  cases errand with
  | fetch =>
      obtain rfl : otherId = "" := Text.percentEncode_inj.1 ((List.cons.inj same).1.trans empty.symm)
      exact List.mem_cons_self
  | start =>
      obtain rfl : otherId = "start" :=
        Text.percentEncode_inj.1 ((List.cons.inj same).1.trans start.symm)
      exact List.mem_cons_of_mem _ List.mem_cons_self
  | messages limit offset => exact absurd question.symm (question_messages_ne limit offset)

/-- **Two errands with one target** are about one session, but for the confused ones. -/
theorem eq_or_confused {errand other : Errand} {sessionId otherId : String}
    (same : other.target otherId = errand.target sessionId) :
    otherId = sessionId ∨ ((errand, sessionId), other, otherId) ∈ confused ∨
      ((other, otherId), errand, sessionId) ∈ confused := by
  have lands : other.landing otherId = errand.landing sessionId := by
    rw [← places_target, same, places_target]
  have asks : other.question = errand.question := by
    rw [← String.toList_inj, ← other.dropWhile_target otherId, same, errand.dropWhile_target]
  unfold landing written at lands
  by_cases up : sessionId = ".."
  · by_cases up' : otherId = ".."
    · exact Or.inl (up'.trans up.symm)
    · rw [if_pos up, if_neg up'] at lands
      split at lands
      · exact absurd (List.cons.inj lands).2.symm (errand.ending_ne_sessions _)
      · exact absurd (List.cons.inj lands).2.symm (errand.ending_ne_sessions _)
  · rw [if_neg up] at lands
    by_cases up' : otherId = ".."
    · rw [if_pos up'] at lands
      split at lands
      · exact absurd (List.cons.inj lands).2 (other.ending_ne_sessions _)
      · exact absurd (List.cons.inj lands).2 (other.ending_ne_sessions _)
    · rw [if_neg up'] at lands
      by_cases here : sessionId = "."
      · by_cases here' : otherId = "."
        · exact Or.inl (here'.trans here.symm)
        · rw [if_pos here, if_neg here', List.cons_inj_right, List.cons_inj_right] at lands
          exact Or.inr (Or.inl (here ▸ ending_eq errand asks lands))
      · rw [if_neg here] at lands
        by_cases here' : otherId = "."
        · rw [if_pos here', List.cons_inj_right, List.cons_inj_right] at lands
          exact Or.inr (Or.inr (here' ▸ ending_eq other asks.symm lands.symm))
        · rw [if_neg here', List.cons_inj_right, List.cons_inj_right] at lands
          exact Or.inl (Text.percentEncode_inj.1 (List.cons.inj lands).1)

/-- No errand ends up at the list of sessions. -/
theorem landing_ne_list : errand.landing sessionId ≠ ["api", "sessions"] := by
  unfold landing
  split
  · exact fun same => errand.ending_ne_sessions [] (List.cons.inj same).2
  · split
    · intro same
      have nothing := (List.cons.inj (List.cons.inj same).2).2
      cases errand <;> cases nothing
    · exact fun same => by cases (List.cons.inj (List.cons.inj same).2).2

/-- The id comes through for all ids but one or two dots. -/
theorem landing_iff :
    (∃ segment, errand.landing sessionId = "api" :: "sessions" :: segment :: errand.suffix ∧
        Text.percentDecode segment.toList = Text.bytes sessionId) ↔
      sessionId ≠ "." ∧ sessionId ≠ ".." := by
  constructor
  · rintro ⟨segment, lands, decoded⟩
    constructor
    · rintro rfl
      have ends : errand.ending = segment :: errand.suffix := by
        unfold landing at lands
        rw [if_neg (by decide), if_pos rfl, List.cons_inj_right, List.cons_inj_right] at lands
        exact lands
      cases errand with
      | fetch =>
          obtain ⟨rfl, -⟩ := List.cons.inj ends
          rw [Text.bytes_eq_flatMap] at decoded
          revert decoded
          decide
      | start => cases (List.cons.inj ends).2
      | messages limit offset => cases (List.cons.inj ends).2
    · rintro rfl
      unfold landing at lands
      rw [if_pos rfl, List.cons_inj_right] at lands
      exact errand.ending_ne_sessions _ lands
  · rintro ⟨notHere, notUp⟩
    refine ⟨Text.percentEncode sessionId, ?_, Text.percentDecode_percentEncode sessionId⟩
    unfold landing
    rw [if_neg notUp, if_neg notHere]
    rfl

end Errand

/-! ## Calls about sessions -/

/-- **Where a call about a session goes.**  Take any site, with any number of slashes behind
its address in the settings, any errand and any id.  The backend's address is that of the
site, and the call is a request to it.  The path of the request is `api`, `sessions`, one
segment that decodes to the id, and the suffix of the errand, exactly if the id is not one or
two dots; for these two a directory is lost (`Errand.landing`).  No errand asks for the list
of sessions, and errands about two ids never ask for the same, but for the ones that one dot
confuses. -/
theorem errand_goes (config : Config) (site : Site) (slashes : Nat) (errand : Errand)
    (sessionId : String) :
    base { config with baseUrl := site.text ++ String.ofList (List.replicate slashes '/') } =
        .ok site.text ∧
      ∃ request, (errand.call sessionId).request? site.text = some request ∧
        request.authority = site.authority ∧
        places request.target = errand.landing sessionId ∧
        ((∃ segment, places request.target = "api" :: "sessions" :: segment :: errand.suffix ∧
            Text.percentDecode segment.toList = Text.bytes sessionId) ↔
          sessionId ≠ "." ∧ sessionId ≠ "..") ∧
        places request.target ≠ ["api", "sessions"] ∧
        ∀ (other : Errand) (otherId : String),
          ((other.call otherId).request? site.text).map Request.target ≠ some request.target ∨
            otherId = sessionId ∨ ((errand, sessionId), other, otherId) ∈ Errand.confused ∨
            ((other, otherId), errand, sessionId) ∈ Errand.confused := by
  refine ⟨base_of_site config site slashes, _, errand.request?_call sessionId site, rfl, ?_⟩
  rw [errand.places_target]
  refine ⟨rfl, errand.landing_iff sessionId, ?list, fun other otherId => ?others⟩
  case list => exact errand.landing_ne_list sessionId
  case others =>
    rw [other.request?_call otherId site, Option.map_some, ne_eq, Option.some_inj]
    exact (em _).symm.imp id Errand.eq_or_confused

/-- An id of two dots, at a site with a slash behind its address: the call asks for a path
without the session, and without the directory of sessions. -/
theorem errand_goes_of_dots :
    let site : Site := { secure := false, host := "localhost", port := 8000, named := by decide
                         plain := Text.forall_of_all (by decide) }
    base { baseUrl := site.text ++ String.ofList (List.replicate 1 '/') } = .ok site.text ∧
      ∃ request, (Call.startSession "..").request? site.text = some request ∧
        places request.target = ["api", "start"] ∧
        ¬ ∃ segment, places request.target = ["api", "sessions", segment, "start"] ∧
          Text.percentDecode segment.toList = Text.bytes ".." := by
  intro site
  obtain ⟨based, request, asked, -, lands, through, -⟩ :=
    errand_goes {} site 1 Errand.start ".."
  exact ⟨based, request, asked, lands, fun found => (through.1 found).2 rfl⟩

end SessionSync.Backend
