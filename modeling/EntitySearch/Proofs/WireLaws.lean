import EntitySearch.Cluster.Wire
import EntitySearch.Proofs.ExactScores
import EntitySearch.Proofs.JsonLaws
import EntitySearch.Proofs.TableEntries

/-!
# Laws of the wire

Every task arrives as it was sent.  An answer arrives as it was given if its
scores are finite, and does not arrive otherwise.
-/

namespace EntitySearch

open Numeric (Single)

namespace Json

theorem endsAtQuote_quote (text : List Char) : EndsAtQuote (QuotedText.quote text) :=
  QuotedText.split?_quote text

theorem isWritable_ofString (value : String) : (ofString value).IsWritable := by
  rw [ofString, IsWritable]
  exact endsAtQuote_quote value.toList

theorem isWritable_ofNat (value : Nat) : (ofNat value).IsWritable := by
  simp [ofNat, IsWritable]

theorem membersAreWritable_of_forall {members : List (List Char × Json)}
    (writable : ∀ member ∈ members, EndsAtQuote member.1 ∧ member.2.IsWritable) :
    MembersAreWritable members := by
  induction members with
  | nil => trivial
  | cons member members ih =>
      obtain ⟨name, value⟩ := writable member List.mem_cons_self
      exact ⟨name, value, ih fun other inside => writable other (List.mem_cons_of_mem _ inside)⟩

theorem isWritable_ofMembers {members : List (String × Json)}
    (writable : ∀ member ∈ members, member.2.IsWritable) : (ofMembers members).IsWritable := by
  rw [ofMembers, IsWritable]
  refine membersAreWritable_of_forall fun member inside => ?_
  obtain ⟨named, isNamed, rfl⟩ := List.mem_map.1 inside
  exact ⟨endsAtQuote_quote _, writable named isNamed⟩

theorem asString?_ofString (value : String) : (ofString value).asString? = some value := by
  simp [ofString, asString?]

theorem asUnsigned?_ofNat (number : UInt64) : (ofNat number.toNat).asUnsigned? = some number := by
  simp [ofNat, asUnsigned?, UInt64.toNat_lt_size]

end Json

namespace QuotedText

theorem quoteCharacter_of_isDigit {digit : Char} (isDigit : digit.isDigit = true) :
    quoteCharacter digit = [digit] := by
  have notSmall : 48 ≤ digit.toNat := by
    simp only [Char.isDigit, Bool.and_eq_true, decide_eq_true_eq] at isDigit
    exact isDigit.1
  rcases quoteCharacter_cases digit with
    ⟨letter, _, escape, _⟩ | ⟨isControl, _⟩ | ⟨_, _, _, written⟩
  · exfalso
    unfold shortEscape? at escape
    split at escape <;> cases escape <;> revert isDigit <;> decide
  · omega
  · exact written

theorem quote_of_isDigit {digits : List Char} (areDigits : ∀ digit ∈ digits, digit.isDigit) :
    quote digits = digits := by
  induction digits with
  | nil => rfl
  | cons digit digits ih =>
      rw [quote, List.flatMap_cons, quoteCharacter_of_isDigit (areDigits digit (by simp)),
        ← quote, ih fun other inside => areDigits other (List.mem_cons_of_mem _ inside)]
      rfl

end QuotedText

namespace Wire

theorem isWritable_taskJson (task : ClusterTask) : (taskJson task).IsWritable := by
  cases task with
  | count index query =>
      refine Json.isWritable_ofMembers fun member inside => ?_
      rw [List.mem_singleton.1 inside]
      refine Json.isWritable_ofMembers fun field isField => ?_
      simp only [List.mem_cons, List.not_mem_nil, or_false] at isField
      rcases isField with rfl | rfl
      · exact Json.isWritable_ofString index
      · exact Json.isWritable_ofString query
  | search index query limit =>
      refine Json.isWritable_ofMembers fun member inside => ?_
      rw [List.mem_singleton.1 inside]
      refine Json.isWritable_ofMembers fun field isField => ?_
      simp only [List.mem_cons, List.not_mem_nil, or_false] at isField
      rcases isField with rfl | rfl | rfl
      · exact Json.isWritable_ofString index
      · exact Json.isWritable_ofString query
      · exact Json.isWritable_ofNat limit.toNat
  | deleteProject index project =>
      refine Json.isWritable_ofMembers fun member inside => ?_
      rw [List.mem_singleton.1 inside]
      refine Json.isWritable_ofMembers fun field isField => ?_
      simp only [List.mem_cons, List.not_mem_nil, or_false] at isField
      rcases isField with rfl | rfl
      · exact Json.isWritable_ofString index
      · exact Json.isWritable_ofNat project.toNat

theorem variant?_ofMembers (name : String) (content : Json) :
    variant? (.ofMembers [(name, content)]) = some (name, content) := by
  simp [variant?, Json.ofMembers]

theorem filter_name {members : List (String × Json)} (distinct : (members.map (·.1)).Nodup)
    {member : String × Json} (inside : member ∈ members) :
    members.filter (·.1 == member.1) = [member] := by
  induction members with
  | nil => cases inside
  | cons first members ih =>
      obtain ⟨notLater, restDistinct⟩ := List.nodup_cons.1 distinct
      rcases List.mem_cons.1 inside with rfl | later
      · rw [List.filter_cons_of_pos (by simp), List.filter_eq_nil_iff.2]
        intro other isOther same
        exact notLater (List.mem_map.2 ⟨other, isOther, by simpa using same⟩)
      · rw [List.filter_cons_of_neg, ih restDistinct later]
        intro same
        have sameName : first.1 = member.1 := by simpa using same
        exact notLater (List.mem_map.2 ⟨member, later, sameName.symm⟩)

theorem uniqueMember?_of_mem {members : List (String × Json)}
    (distinct : (members.map (·.1)).Nodup) {member : String × Json} (inside : member ∈ members) :
    uniqueMember? member.1
        (members.map fun member => (QuotedText.quote member.1.toList, member.2)) =
      some member.2 := by
  have sameTest : ((fun written : List Char × Json =>
      QuotedText.unquote? written.1 == some member.1.toList) ∘
        fun member : String × Json => (QuotedText.quote member.1.toList, member.2)) =
      (·.1 == member.1) := by
    funext other
    simp [Bool.beq_eq_decide_eq, String.toList_inj]
  rw [uniqueMember?, List.filter_map, sameTest, filter_name distinct inside]
  rfl

theorem mapM_eq_some_map {Source Image : Type} {image? : Source → Option Image}
    {image : Source → Image} {sources : List Source}
    (isImage : ∀ source ∈ sources, image? source = some (image source)) :
    sources.mapM image? = some (sources.map image) := by
  induction sources with
  | nil => rfl
  | cons source sources ih =>
      simp [isImage source List.mem_cons_self,
        ih fun other inside => isImage other (List.mem_cons_of_mem _ inside)]

/-- The fields of a record with distinct names are found under their names. -/
theorem record?_ofMembers {names : List String} {members : List (String × Json)}
    (named : members.map (·.1) = names) (distinct : names.Nodup) :
    record? names (.ofMembers members) = some (members.map (·.2)) := by
  subst named
  have readable : (members.map fun member => (QuotedText.quote member.1.toList, member.2)).all
      (fun member => (QuotedText.unquote? member.1).isSome) = true := by
    simp
  show (if _ then _ else none) = _
  rw [if_pos readable, List.mapM_map]
  exact mapM_eq_some_map fun member inside => uniqueMember?_of_mem distinct inside

theorem taskOfJson?_taskJson (task : ClusterTask) : taskOfJson? (taskJson task) = some task := by
  cases task with
  | count index query =>
      have fields : record? ["index", "query"] (.ofMembers [("index", .ofString index),
          ("query", .ofString query)]) = some [.ofString index, .ofString query] :=
        record?_ofMembers rfl (by decide)
      simp [taskOfJson?, taskJson, variant?_ofMembers, fields, Json.asString?_ofString]
  | search index query limit =>
      have fields : record? ["index", "query", "limit"] (.ofMembers [("index", .ofString index),
          ("query", .ofString query), ("limit", .ofNat limit.toNat)]) =
            some [.ofString index, .ofString query, .ofNat limit.toNat] :=
        record?_ofMembers rfl (by decide)
      simp [taskOfJson?, taskJson, variant?_ofMembers, fields, Json.asString?_ofString,
        Json.asUnsigned?_ofNat]
  | deleteProject index project =>
      have fields : record? ["index", "project_id"] (.ofMembers [("index", .ofString index),
          ("project_id", .ofNat project.toNat)]) =
            some [.ofString index, .ofNat project.toNat] :=
        record?_ofMembers rfl (by decide)
      simp [taskOfJson?, taskJson, variant?_ofMembers, fields, Json.asString?_ofString,
        Json.asUnsigned?_ofNat]

theorem decodeTask?_encodeTask (task : ClusterTask) :
    decodeTask? (encodeTask task) = some task := by
  rw [decodeTask?, encodeTask, Json.read?_write (isWritable_taskJson task), Option.bind_some,
    taskOfJson?_taskJson]

theorem idOfName?_toDigits (id : EntityId) : idOfName? (Nat.toDigits 10 id.toNat) = some id := by
  have number := (JsonNumber.integer false id.toNat).readNumber?_write endsNumber_nil
  rw [List.append_nil, JsonNumber.write, JsonNumber.sign] at number
  have written : Nat.toDigits 10 id.toNat =
      (if false = true then ['-'] else []) ++ Nat.toDigits 10 id.toNat := rfl
  rw [idOfName?, written, number]
  exact Json.asUnsigned?_ofNat id

theorem standsFor_exactLiteral {score : Single} (finite : score.isFinite = true) :
    StandsFor (exactLiteral score) score :=
  Single.ofDoubleDecimal?_exactDecimal finite

/-- What is written for a finite score is read back. -/
theorem standsFor_scoreLiteral {score : Single} (finite : score.isFinite = true) :
    StandsFor (scoreLiteral score) score := by
  unfold scoreLiteral
  split
  · rename_i readBack
    exact readBack
  · exact standsFor_exactLiteral finite

/-- A score arrives as it was given if it is finite, and does not arrive otherwise. -/
theorem scoreOfJson?_scoreJson (score : Single) :
    scoreOfJson? (scoreJson score) = if score.isFinite then some score else none := by
  cases finite : score.isFinite with
  | true =>
      rw [scoreJson, if_pos finite]
      exact standsFor_scoreLiteral finite
  | false =>
      rw [scoreJson, finite]
      rfl

theorem isWritable_scoreJson (score : Single) : (scoreJson score).IsWritable := by
  unfold scoreJson
  split <;> simp [Json.IsWritable]

/-- Scores can be written in any order, whatever stands for each of them. -/
theorem isWritable_listedScores (listed : List (EntityId × Single)) (written : Single → Json)
    (writable : ∀ score, (written score).IsWritable) :
    (Json.ofMembers [("Scores", .object (listed.map fun hit =>
      (Nat.toDigits 10 hit.1.toNat, written hit.2)))]).IsWritable := by
  refine Json.isWritable_ofMembers fun member inside => ?_
  rw [List.mem_singleton.1 inside, Json.IsWritable]
  refine Json.membersAreWritable_of_forall fun entry isEntry => ?_
  obtain ⟨hit, _, rfl⟩ := List.mem_map.1 isEntry
  refine ⟨?_, writable hit.2⟩
  have digits : QuotedText.quote (Nat.toDigits 10 hit.1.toNat) =
      Nat.toDigits 10 hit.1.toNat :=
    QuotedText.quote_of_isDigit (areDigits_toDigits hit.1.toNat)
  rw [← digits]
  exact Json.endsAtQuote_quote _

theorem isWritable_responseJson (response : ClusterResponse) :
    (responseJson response).IsWritable := by
  cases response with
  | count number =>
      refine Json.isWritable_ofMembers fun member inside => ?_
      rw [List.mem_singleton.1 inside]
      exact Json.isWritable_ofNat number.toNat
  | scores hits => exact isWritable_listedScores hits.entries scoreJson isWritable_scoreJson
  | done => exact Json.isWritable_ofString "Done"

def isFinite : ClusterResponse → Bool
  | .scores hits => hits.entries.all (·.2.isFinite)
  | _ => true

theorem mapM_eq_none {Source Image : Type} {image? : Source → Option Image}
    {sources : List Source} {source : Source} (inside : source ∈ sources)
    (noImage : image? source = none) : sources.mapM image? = none := by
  induction sources with
  | nil => cases inside
  | cons first sources ih =>
      rw [List.mapM_cons]
      rcases List.mem_cons.1 inside with rfl | later
      · rw [noImage]
        rfl
      · rw [ih later]
        cases image? first <;> rfl

theorem scoresOfMembers?_eq (hits : ScoredEntities) :
    scoresOfMembers? (hits.entries.map fun hit =>
        (Nat.toDigits 10 hit.1.toNat, scoreJson hit.2)) =
      if isFinite (.scores hits) then some hits else none := by
  rw [scoresOfMembers?, List.mapM_map]
  split
  · rename_i finite
    rw [mapM_eq_some_map]
    · exact congrArg some ((congrArg Table.ofList (List.map_id _)).trans hits.ofList_entries)
    · intro hit inside
      have hitFinite := List.all_eq_true.1 finite hit inside
      simp [idOfName?_toDigits, scoreOfJson?_scoreJson, hitFinite]
  · rename_i notFinite
    obtain ⟨hit, inside, hitNotFinite⟩ : ∃ hit ∈ hits.entries, ¬hit.2.isFinite = true := by
      simpa [isFinite] using notFinite
    rw [mapM_eq_none inside]
    · rfl
    · simp [idOfName?_toDigits, scoreOfJson?_scoreJson, hitNotFinite]

theorem responseOfJson?_ofMembers (name : String) (content : Json) :
    responseOfJson? (.ofMembers [(name, content)]) =
      match some (name, content) with
      | some ("Count", content) => content.asUnsigned?.map ClusterResponse.count
      | some ("Scores", .object members) => (scoresOfMembers? members).map .scores
      | some ("Done", .null) => some .done
      | _ => none := by
  rw [← variant?_ofMembers]
  rfl

/-- An answer arrives as it was given if its scores are finite, and does not arrive
otherwise. -/
theorem decodeResponse?_encodeResponse (response : ClusterResponse) :
    decodeResponse? (encodeResponse response) =
      if isFinite response then some response else none := by
  rw [decodeResponse?, encodeResponse, Json.read?_write (isWritable_responseJson response),
    Option.bind_some]
  cases response with
  | count number =>
      rw [responseJson, responseOfJson?_ofMembers]
      simp [Json.asUnsigned?_ofNat, isFinite]
  | scores hits =>
      rw [responseJson, responseOfJson?_ofMembers]
      simp only [scoresOfMembers?_eq hits]
      split <;> rfl
  | done => simp [responseJson, responseOfJson?, Json.ofString, isFinite]

end Wire

end EntitySearch
