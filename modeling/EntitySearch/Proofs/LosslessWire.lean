import EntitySearch.Proofs.WireLaws

/-!
# The wire loses nothing

A task is sent in one form only.  An answer may be sent in several: its scores are
listed in any order, and each of them is any number literal that is read back as the
score.  Every message of these forms arrives as what was sent, so different tasks and
different answers are never sent alike.
-/

namespace EntitySearch

open Numeric (Single)

namespace Table

variable {Key Value : Type} [LT Key] [DecidableLT Key] [DecidableEq Key] [LE Key]
  [Std.IsLinearOrder Key] [Std.LawfulOrderLT Key]

theorem ofList_of_perm {table : Table Key Value} {listed : List (Key × Value)}
    (order : listed.Perm table.entries) : ofList listed = table := by
  have distinct : (listed.map (·.1)).Nodup :=
    (order.map (·.1)).nodup_iff.2 table.nodup_keys
  exact ext_entries fun _ _ => (mem_entries_ofList distinct).trans order.mem_iff

end Table

namespace Wire

/-- What a node may send as an answer: scores in any order, each as a number that stands for
it. -/
inductive MayBeSent : ClusterResponse → List Char → Prop
  | count (number : UInt64) :
      MayBeSent (.count number) (Json.ofMembers [("Count", .ofNat number.toNat)]).write
  | scores {hits : ScoredEntities} {listed : List (EntityId × Single)}
      (order : listed.Perm hits.entries) {literal : Single → JsonNumber}
      (faithful : ∀ hit ∈ listed, StandsFor (literal hit.2) hit.2) :
      MayBeSent (.scores hits) (Json.ofMembers [("Scores", .object (listed.map fun hit =>
        (Nat.toDigits 10 hit.1.toNat, .number (literal hit.2))))]).write
  | done : MayBeSent .done (Json.ofString "Done").write

theorem scoresOfMembers?_listed {hits : ScoredEntities} {listed : List (EntityId × Single)}
    (order : listed.Perm hits.entries) {literal : Single → JsonNumber}
    (faithful : ∀ hit ∈ listed, StandsFor (literal hit.2) hit.2) :
    scoresOfMembers? (listed.map fun hit =>
      (Nat.toDigits 10 hit.1.toNat, .number (literal hit.2))) = some hits := by
  rw [scoresOfMembers?, List.mapM_map, mapM_eq_some_map]
  · have unchanged := congrArg Table.ofList (List.map_id listed)
    exact congrArg some (unchanged.trans (Table.ofList_of_perm order))
  · intro hit inside
    have stands : scoreOfJson? (.number (literal hit.2)) = some hit.2 := faithful hit inside
    simp [idOfName?_toDigits, stands]

/-- Every form in which an answer may be sent is read back. -/
theorem MayBeSent.decodeResponse? {response : ClusterResponse} {message : List Char}
    (sent : MayBeSent response message) : decodeResponse? message = some response := by
  cases sent with
  | count number => exact decodeResponse?_encodeResponse (.count number)
  | @scores hits listed order literal faithful =>
      have writable := isWritable_listedScores listed (fun score => .number (literal score))
        fun score => by simp [Json.IsWritable]
      rw [Wire.decodeResponse?, Json.read?_write writable, Option.bind_some,
        responseOfJson?_ofMembers]
      simp only [scoresOfMembers?_listed order faithful]
      rfl
  | done => exact decodeResponse?_encodeResponse .done

end Wire

end EntitySearch
