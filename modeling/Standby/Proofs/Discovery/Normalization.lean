import Standby.Config.Schema
import Standby.Proofs.Ordered.Map
import Standby.Proofs.Ordered.Set

/-!
# The peers that discovery works on

A configuration gives discovery its list of servers unless one of the names is blank; the first
blank name is reported, the node's own one before all others (`Config.membership_cases`). Discovery
keeps the entry listed first of each server but its own, in the order in which the servers first
appear (`Membership.isNormalized_normalize`), and begins with a peer for each entry that is kept
(`peer_list_is_normalized`).
-/
namespace Standby

open Text

/-- The entry of a configuration that lists a peer. -/
def PeerAddress.entry (peer : PeerAddress) : PeerEntry := ⟨peer.server.name, peer.address⟩

namespace Config

/-- The fault of the first blank name among names of servers that are given with their settings. -/
def blankName? (names : List (String × String)) : Option ConfigFault :=
  (names.find? fun (_, name) => isBlank name).map fun (field, name) =>
    .invalid field (InvalidId.message ⟨.server, name, "empty"⟩)

/-- The names of listed peers with the setting that holds them. -/
def peerNames (entries : List PeerEntry) : List (String × String) :=
  entries.map fun entry => ("discovery.peers.server", entry.server)

/-- The names of servers in a configuration, the node's own one first. -/
def serverNames (config : Config) : List (String × String) :=
  ("cluster.server_name", config.cluster.serverName) :: peerNames config.discovery.peers

variable {name : String} {names : List (String × String)}

/-- A blank name is reported before the names after it. -/
theorem blankName?_cons_of_isBlank (blank : isBlank name = true) (field : String) :
    blankName? ((field, name) :: names) =
      some (.invalid field (InvalidId.message ⟨.server, name, "empty"⟩)) := by
  simp [blankName?, blank]

/-- A name that is not blank is not reported. -/
theorem blankName?_cons_of_visible (visible : isBlank name = false) (field : String) :
    blankName? ((field, name) :: names) = blankName? names := by
  simp [blankName?, visible]

/-- A blank name is refused. -/
theorem serverOf_of_isBlank (blank : isBlank name = true) (field : String) :
    serverOf field name = .error (.invalid field (InvalidId.message ⟨.server, name, "empty"⟩)) := by
  simp [serverOf, ServerId.parse, blank]

/-- Any other name is the name of a server. -/
theorem serverOf_of_visible (visible : isBlank name = false) (field : String) :
    serverOf field name = .ok ⟨name, visible⟩ := by
  simp [serverOf, ServerId.parse, visible]

/-- Peers are taken as they are listed unless a name is blank. -/
theorem mapM_peerAddress_cases (entries : List PeerEntry) :
    match entries.mapM peerAddress with
    | .error fault => blankName? (peerNames entries) = some fault
    | .ok peers =>
      blankName? (peerNames entries) = none ∧ peers.map PeerAddress.entry = entries := by
  induction entries with
  | nil => exact ⟨rfl, rfl⟩
  | cons entry rest ih =>
    rw [List.mapM_cons, peerAddress, peerNames, List.map_cons]
    cases blank : isBlank entry.server with
    | true =>
      rw [serverOf_of_isBlank blank, blankName?_cons_of_isBlank blank]
      rfl
    | false =>
      rw [serverOf_of_visible blank, blankName?_cons_of_visible blank]
      cases read : rest.mapM peerAddress with
      | error fault =>
        rw [read] at ih
        exact ih
      | ok peers =>
        rw [read] at ih
        exact ⟨ih.1, congrArg (entry :: ·) ih.2⟩

/-- Discovery is given the servers as they are configured unless a name is blank. -/
theorem membership_cases (config : Config) :
    match config.membership with
    | .error fault => blankName? config.serverNames = some fault
    | .ok membership =>
      blankName? config.serverNames = none ∧
        membership.own.name = config.cluster.serverName ∧
        membership.peers.map PeerAddress.entry = config.discovery.peers ∧
        membership.backoff = config.discovery.backoff := by
  have listed := mapM_peerAddress_cases config.discovery.peers
  rw [membership, server, serverNames]
  cases blank : isBlank config.cluster.serverName with
  | true =>
    rw [serverOf_of_isBlank blank, blankName?_cons_of_isBlank blank]
    rfl
  | false =>
    rw [serverOf_of_visible blank, blankName?_cons_of_visible blank]
    cases read : config.discovery.peers.mapM peerAddress with
    | error fault =>
      rw [read] at listed
      exact listed
    | ok peers =>
      rw [read] at listed
      exact ⟨listed.1, rfl, listed.2, rfl⟩

end Config

namespace Membership

variable {own server : ServerId} {seen : SortedSet ServerId} {peers : List PeerAddress}
  {peer : PeerAddress}

/-- The servers of listed entries. -/
def servers (peers : List PeerAddress) : List ServerId := peers.map (·.server)

/-- No peers have no servers. -/
@[simp] theorem servers_nil : servers [] = [] := rfl

/-- The server of a peer comes before those of the others. -/
@[simp] theorem servers_cons : servers (peer :: peers) = peer.server :: servers peers := rfl

/-- An entry is kept for each listed server but the own one and those seen before. -/
theorem mem_servers_retained_iff :
    server ∈ servers (retained own seen peers) ↔
      server ≠ own ∧ seen.contains server = false ∧ server ∈ servers peers := by
  fun_induction retained own seen peers with
  | case1 => simp
  | case2 seen peer rest same ih =>
    rw [ih, servers_cons, List.mem_cons, same]
    tauto
  | case3 seen peer rest other known ih =>
    rw [ih, servers_cons, List.mem_cons]
    refine and_congr_right fun _ => and_congr_right fun unseen => ?_
    refine (or_iff_right fun equal => ?_).symm
    rw [equal, known] at unseen
    cases unseen
  | case4 seen peer rest other fresh ih =>
    rw [servers_cons, servers_cons, List.mem_cons, List.mem_cons, ih, ← Bool.not_eq_true,
      SortedSet.contains_insert_iff, not_or, Bool.not_eq_true]
    rw [Bool.not_eq_true] at fresh
    by_cases equal : server = peer.server
    · simp [equal, other, fresh]
    · simp [equal]

/-- A server of which an entry is kept is neither the own one nor one that was seen before. -/
theorem ne_of_mem_retained {other : ServerId} (kept : server ∈ servers (retained own seen peers))
    (excluded : other = own ∨ seen.contains other = true) : other ≠ server := by
  obtain ⟨notOwn, unseen, -⟩ := mem_servers_retained_iff.mp kept
  rintro rfl
  rcases excluded with same | known
  · exact notOwn same
  · rw [unseen] at known
    cases known

/-- The entry that is kept of a server is the one listed first. -/
theorem find?_eq_some_of_mem_retained (kept : peer ∈ retained own seen peers) :
    peers.find? (·.server = peer.server) = some peer := by
  fun_induction retained own seen peers with
  | case1 => cases kept
  | case2 seen first rest same ih =>
    have differs := ne_of_mem_retained (List.mem_map_of_mem kept) (.inl same)
    rw [List.find?_cons_of_neg (by simpa using differs)]
    exact ih kept
  | case3 seen first rest other known ih =>
    have differs := ne_of_mem_retained (List.mem_map_of_mem kept) (.inr known)
    rw [List.find?_cons_of_neg (by simpa using differs)]
    exact ih kept
  | case4 seen first rest other fresh ih =>
    rcases List.mem_cons.mp kept with rfl | later
    · rw [List.find?_cons_of_pos (by simp)]
    · -- the first entry counts as seen from here on, so no later one of its server is kept
      have differs := ne_of_mem_retained (List.mem_map_of_mem later)
        (.inr (SortedSet.contains_insert_iff.mpr (.inl rfl)))
      rw [List.find?_cons_of_neg (by simpa using differs)]
      exact ih later

/-- Servers are listed in the order in which they first appear among others. -/
def InOrderOf (others listed : List ServerId) : Prop :=
  listed.Pairwise fun earlier later => others.idxOf earlier < others.idxOf later

/-- A server in front of the others leaves the order of those that differ from it. -/
theorem InOrderOf.cons {first : ServerId} {others listed : List ServerId}
    (inOrder : InOrderOf others listed) (differs : ∀ server ∈ listed, first ≠ server) :
    InOrderOf (first :: others) listed :=
  inOrder.imp_of_mem fun {earlier later} here there less => by
    rw [List.idxOf_cons_ne _ (differs earlier here), List.idxOf_cons_ne _ (differs later there)]
    exact Nat.succ_lt_succ less

/-- The entries are kept in the order in which their servers first appear. -/
theorem inOrderOf_retained (own : ServerId) (seen : SortedSet ServerId)
    (peers : List PeerAddress) :
    InOrderOf (servers peers) (servers (retained own seen peers)) := by
  fun_induction retained own seen peers with
  | case1 => exact .nil
  | case2 seen first rest same ih =>
    exact ih.cons fun _ kept => ne_of_mem_retained kept (.inl same)
  | case3 seen first rest other known ih =>
    exact ih.cons fun _ kept => ne_of_mem_retained kept (.inr known)
  | case4 seen first rest other fresh ih =>
    have differs : ∀ server ∈ servers (retained own (seen.insert first.server) rest),
        first.server ≠ server := fun _ kept =>
      ne_of_mem_retained kept (.inr (SortedSet.contains_insert_iff.mpr (.inl rfl)))
    refine List.pairwise_cons.mpr ⟨fun later kept => ?_, ih.cons differs⟩
    rw [servers_cons, List.idxOf_cons_self, List.idxOf_cons_ne _ (differs later kept)]
    exact Nat.succ_pos _

/-- Servers in the order in which they first appear are listed once each. -/
theorem InOrderOf.nodup {others listed : List ServerId} (inOrder : InOrderOf others listed) :
    listed.Nodup :=
  inOrder.imp fun {earlier later} less same => by
    rw [same] at less
    exact Nat.lt_irrefl _ less

/-- A list without the own server and without repeated ones is kept as it is. -/
theorem retained_eq_self (others : ∀ server ∈ servers peers,
      server ≠ own ∧ seen.contains server = false) (distinct : (servers peers).Nodup) :
    retained own seen peers = peers := by
  induction peers generalizing seen with
  | nil => rfl
  | cons first rest ih =>
    obtain ⟨notOwn, unseen⟩ := others first.server List.mem_cons_self
    obtain ⟨absent, distinct⟩ := List.nodup_cons.mp distinct
    rw [retained, if_neg notOwn, if_neg (by simp [unseen])]
    refine congrArg (first :: ·) (ih (fun server listed => ?_) distinct)
    obtain ⟨notOwn, unseen⟩ := others server (List.mem_cons_of_mem _ listed)
    refine ⟨notOwn, ?_⟩
    rw [← Bool.not_eq_true, SortedSet.contains_insert_iff, not_or, Bool.not_eq_true]
    exact ⟨fun same => absent (by rwa [same] at listed), unseen⟩

/-- A membership is kept with one peer for each listed server but the own one. -/
structure IsNormalized (listed kept : Membership) : Prop where
  /-- The server itself stays the same. -/
  own_eq : kept.own = listed.own
  /-- The delays stay the same. -/
  backoff_eq : kept.backoff = listed.backoff
  /-- Every other server that is listed has a peer, and no server besides. -/
  mem_iff : ∀ server, server ∈ servers kept.peers ↔
    server ≠ listed.own ∧ server ∈ servers listed.peers
  /-- No server has two peers. -/
  nodup : (servers kept.peers).Nodup
  /-- A peer has the address that is listed first for its server. -/
  first : ∀ peer ∈ kept.peers, listed.peers.find? (·.server = peer.server) = some peer
  /-- The peers come in the order in which their servers first appear. -/
  inOrder : InOrderOf (servers listed.peers) (servers kept.peers)

variable (membership : Membership)

/-- Normalization keeps one peer for each listed server but the own one. -/
theorem isNormalized_normalize : membership.IsNormalized membership.normalize := by
  have inOrder := inOrderOf_retained membership.own .empty membership.peers
  refine ⟨rfl, rfl, fun server => ?_, inOrder.nodup,
    fun peer kept => find?_eq_some_of_mem_retained kept, inOrder⟩
  rw [normalize, mem_servers_retained_iff]
  exact and_congr_right fun _ => and_iff_right rfl

/-- A membership that is normalised stays as it is. -/
theorem normalize_normalize : membership.normalize.normalize = membership.normalize := by
  have normalized := membership.isNormalized_normalize
  have same : retained membership.own .empty membership.normalize.peers =
      membership.normalize.peers :=
    retained_eq_self (fun server kept => ⟨((normalized.mem_iff server).mp kept).1, rfl⟩)
      normalized.nodup
  exact congrArg (fun peers => { membership with peers }) same

/-- Discovery begins with a peer for each entry that is kept. -/
theorem toList_table_perm : membership.table.toList.Perm
    ((servers membership.normalize.peers).map fun server => (server, .ofServer server)) := by
  have distinct := membership.isNormalized_normalize.nodup
  rw [table, servers, List.map_map]
  refine SortedMap.toList_ofList_perm ?_
  rwa [List.map_map]

end Membership

/-- A configuration is refused exactly if the name of a server in it is blank, and the first blank
name is reported, the node's own one before those of the peers; otherwise discovery is given the
servers as they are listed. Of any membership discovery keeps one peer for each listed server but
the own one, in the order in which the servers first appear and with the address listed first. It
begins with exactly these servers, all of them unknown, and a membership that is normalised stays as
it is. -/
theorem peer_list_is_normalized :
    (∀ config : Config,
      match config.membership with
      | .error fault => Config.blankName? config.serverNames = some fault
      | .ok membership =>
        Config.blankName? config.serverNames = none ∧
          membership.own.name = config.cluster.serverName ∧
          membership.peers.map PeerAddress.entry = config.discovery.peers ∧
          membership.backoff = config.discovery.backoff) ∧
    ∀ membership : Membership,
      membership.IsNormalized membership.normalize ∧
      membership.table.toList.Perm ((Membership.servers membership.normalize.peers).map
        fun server => (server, .ofServer server)) ∧
      (Membership.states membership.table).Perm
        ((Membership.servers membership.normalize.peers).map fun server => (server, .unknown)) ∧
      membership.normalize.normalize = membership.normalize := by
  refine ⟨Config.membership_cases, fun membership => ?_⟩
  have table := membership.toList_table_perm
  have states := table.map fun entry => (entry.1, entry.2.state)
  rw [List.map_map] at states
  exact ⟨membership.isNormalized_normalize, table, states, membership.normalize_normalize⟩

end Standby
