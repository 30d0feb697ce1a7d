import Conformance.Suite.Basic
import Conformance.Suite.Fixture
import Conformance.Suite.Step

/-!
# The scenarios of the built-in suites

Each suite begins by removing what earlier runs left, goes through one or more lives of the server, and
removes the files that were made. The directory file is known by its configured name.
-/

namespace Conformance

namespace Scenario

/-- What waiting for the end of the server is called. -/
def shutdown : String := "Waiting for server to shut down."

/-- The beginning of a scenario with a server that finds nothing. -/
def freshStart (title : String) : List Step :=
  [.begin title, .clean, .start "Starting server:" .fresh]

/-- Restart the server where the directory file is. -/
def warmStart : Step := .start "Starting server:" .warm

/-- Let a user shut the server down. -/
def stop (user : Credential) : List Step :=
  [.run "Stopping server" .ok (.exit user), .awaitServer shutdown]

/-- The end of a scenario: a user shuts the server down, and the directory file is there or not. -/
def shutDown (description : String) (user : Credential) (directoryFile : Path)
    (persisted : Bool) : List Step :=
  [.run description .ok (.exit user), .awaitServer shutdown,
    .existence directoryFile persisted, .clean]

variable (players : Players) (directoryFile : Path)

/-- Registration, and registration of a name that is taken. -/
def registration : List Step :=
  freshStart "Basic REGISTER functionality" ++
  [.run "Registering to an empty file" .ok (.register players.alice),
    .run "Registering to a non-empty file" .ok (.register players.bob),
    .run "Re-registering with same password fails" .errUserExists (.register players.alice),
    .run "Re-registering with different password fails" .errUserExists
      (.register players.impostor)] ++
  shutDown "Using EXIT to verify integrity of password" players.alice directoryFile false

/-- Who may shut the server down. -/
def authentication : List Step :=
  freshStart "Authentication and EXIT" ++
  [.run "Registering a user" .ok (.register players.alice),
    .run "Invalid user for EXIT" .errLogin (.exit players.bob),
    .run "Registering another user" .ok (.register players.bob),
    .run "Invalid password for EXIT" .errLogin (.exit players.impostor)] ++
  shutDown "Valid (but not first) user calls EXIT" players.bob directoryFile false

/-- Storing and fetching content, and the largest content. -/
def content : List Step :=
  let alice := players.alice
  let bob := players.bob
  freshStart "SETPFILE and GETPFILE" ++
  [.run "Registering a user" .ok (.register alice),
    .run "Setting alice's content (text)." .ok (.setContent alice Fixture.shortText.name),
    .run "Checking alice's content." .ok (.getContent alice alice.name),
    .fetched Fixture.shortText.name alice.name,
    .run "Getting alice's content with bad user." .errLogin (.getContent bob alice.name),
    .run "Getting alice's content with bad password." .errLogin
      (.getContent players.impostor alice.name),
    .run "Setting bob's content before registering." .errLogin
      (.setContent bob Fixture.shortText.name),
    .run "Overwriting alice's content (text)." .ok (.setContent alice Fixture.longText.name),
    .run "Checking alice's content." .ok (.getContent alice alice.name),
    .fetched Fixture.longText.name alice.name,
    .run "Registering another user" .ok (.register bob),
    .run "Setting bob's content (binary)." .ok (.setContent bob Fixture.everyByte.name),
    .run "Overwriting bob's content (binary)." .ok (.setContent bob Fixture.oddLength.name),
    .run "Checking bob's content." .ok (.getContent bob bob.name),
    .fetched Fixture.oddLength.name bob.name,
    .run "Getting alice's content with bob." .ok (.getContent bob alice.name),
    .fetched Fixture.longText.name alice.name,
    .run "Getting bob's content with alice." .ok (.getContent alice bob.name),
    .fetched Fixture.oddLength.name bob.name,
    .make tooBig (Directory.maxContentLength + 1),
    .run "Setting alice's content with too large file." .errReqFmt (.setContent alice tooBig),
    .remove tooBig,
    .run "Rejected upload left alice's content alone." .ok (.getContent bob alice.name),
    .fetched Fixture.longText.name alice.name,
    .make notTooBig Directory.maxContentLength,
    .run "Setting alice's content with large file." .ok (.setContent alice notTooBig),
    .run "Getting alice's content." .ok (.getContent bob alice.name),
    .fetched notTooBig alice.name,
    .remove notTooBig] ++
  shutDown "Shutting down" bob directoryFile false

/-- The listing of all users. -/
def allUsers : List Step :=
  let alice := players.alice
  freshStart "ALLUSERS" ++
  [.run "Registering a user" .ok (.register alice),
    .run "Getting all users to make sure it's just alice." .ok (.allUsers alice allUsersFile),
    .list allUsersFile [alice.name] .sorted,
    .run "Running ALLUSERS with invalid user." .errLogin (.allUsers players.bob allUsersFile)] ++
  [players.bob, players.chris, players.diana].map
    (fun user => .run "Registering a user" .ok (.register user)) ++
  [.run "Getting all users to verify newlines." .ok (.allUsers alice allUsersFile),
    .list allUsersFile
      [alice.name, players.bob.name, players.chris.name, players.diana.name] .sorted] ++
  shutDown "Shutting down" players.chris directoryFile false

/-- Who may have the directory file written. -/
def persistAuth : List Step :=
  freshStart "Proper authentication for PERSIST" ++
  [.run "Registering a user" .ok (.register players.alice),
    .run "Running PERSIST with invalid user." .errLogin (.persist players.bob),
    .run "Running PERSIST with invalid password." .errLogin (.persist players.impostor),
    .run "Running PERSIST with valid user." .ok (.persist players.alice)] ++
  shutDown "Shutting down" players.alice directoryFile true

/-! ## The directory file -/

/-- One registered user in the directory file. -/
def persistOne : List Step :=
  let alice := players.alice
  let size := Directory.size [alice.footprint]
  freshStart "REGISTER gets saved correctly" ++
  [.run "Registering alice" .ok (.register alice),
    .run "Persisting" .ok (.persist alice)] ++
  stop alice ++
  [.size directoryFile size, .peek directoryFile 0 "AUTHAUTH", warmStart] ++
  stop alice ++
  [.size directoryFile size]

/-- Several registered users in the directory file. -/
def persistSeveral : List Step :=
  let alice := players.alice
  let others := [players.bob, players.chris, players.diana]
  let stored := (alice :: others).map Credential.footprint
  [.begin "Several REGISTERs result in a correct file", warmStart] ++
  others.map (fun user => .run ("Registering " ++ user.name) .ok (.register user)) ++
  [.run "Persisting" .ok (.persist alice)] ++
  stop alice ++
  [warmStart] ++
  others.map (fun user =>
    .run ("Verifying " ++ user.name ++ " with GETPFILE") .errNoData
      (.getContent user user.name)) ++
  stop alice ++
  [.size directoryFile (Directory.size stored), .directory directoryFile stored]

/-- Contents in the directory file. -/
def persistContents : List Step :=
  let alice := players.alice
  let stored :=
    [(alice, Fixture.shortText), (players.bob, Fixture.everyByte),
      (players.chris, Fixture.oddLength), (players.diana, Fixture.longText)]
  let footprints := stored.map fun (user, fixture) => fixture.footprint user
  [.begin "SETPFILE commands (binary and text) persist correctly", warmStart,
    .run "Set alice content" .ok (.setContent alice Fixture.shortText.name),
    .run "Set bob content" .ok (.setContent players.bob Fixture.longText.name),
    .run "Overwrite bob content" .ok (.setContent players.bob Fixture.everyByte.name),
    .run "Set chris content" .ok (.setContent players.chris Fixture.oddLength.name),
    .run "Set diana content" .ok (.setContent players.diana Fixture.everyByte.name),
    .run "Overwrite diana's content" .ok (.setContent players.diana Fixture.longText.name),
    .run "Persisting" .ok (.persist alice)] ++
  stop alice ++
  [warmStart] ++
  stored.flatMap (fun (user, fixture) =>
    [.run ("Checking " ++ user.name ++ "'s content.") .ok (.getContent user user.name),
      .fetched fixture.name user.name]) ++
  stop alice ++
  [.size directoryFile (Directory.size footprints), .directory directoryFile footprints, .clean]

/-- The directory file over several lives of the server. -/
def persistence : List Step :=
  persistOne players directoryFile ++ persistSeveral players directoryFile ++
    persistContents players directoryFile

/-- Content that was stored too late is lost with the server. -/
def persistRestart : List Step :=
  let alice := players.alice
  let bob := players.bob
  let size := Directory.size [Fixture.shortText.footprint alice, bob.footprint]
  freshStart "Content set after PERSIST is lost on restart" ++
  [.run "Registering alice" .ok (.register alice),
    .run "Registering bob" .ok (.register bob),
    .run "Setting alice's content" .ok (.setContent alice Fixture.shortText.name),
    .run "Persisting" .ok (.persist alice),
    .run "Setting bob's content after persisting" .ok
      (.setContent bob Fixture.longText.name)] ++
  stop alice ++
  [.size directoryFile size, warmStart,
    .run "Getting alice's persisted content as bob" .ok (.getContent bob alice.name),
    .fetched Fixture.shortText.name alice.name,
    .run "Bob's unpersisted content is gone" .errNoData (.getContent bob bob.name)] ++
  stop alice ++
  [.size directoryFile size, .clean]

/-- Users, content and overwritten content over two restarts. -/
def restartSmoke : List Step :=
  let alice := players.alice
  let bob := players.bob
  let stored := [Fixture.oddLength.footprint alice, bob.footprint]
  freshStart "Registering users, putting content, and persisting" ++
  [.run "Registering new user alice." .ok (.register alice),
    .run "Setting alice's content." .ok (.setContent alice Fixture.longText.name),
    .run "Checking alice's content." .ok (.getContent alice alice.name),
    .fetched Fixture.longText.name alice.name,
    .run "Getting all users to make sure it's just alice." .ok (.allUsers alice allUsersFile),
    .list allUsersFile [alice.name] .sorted,
    .run "Instructing server to persist data." .ok (.persist alice)] ++
  stop alice ++
  [.begin "Persisted users and content survive a restart",
    .start "Restarting server:" .warm,
    .run "Re-registering alice." .errUserExists (.register alice),
    .run "Checking alice's old content." .ok (.getContent alice alice.name),
    .fetched Fixture.longText.name alice.name,
    .run "Attempting access with bad password." .errLogin
      (.getContent players.impostor alice.name),
    .run "Attempting access with bad user." .errLogin (.getContent bob alice.name),
    .run "Registering user bob." .ok (.register bob),
    .run "Attempting to access alice's data by bob." .ok (.getContent bob alice.name),
    .fetched Fixture.longText.name alice.name,
    .run "Getting bob's nonexistent data." .errNoData (.getContent bob bob.name),
    .run "Getting all users to make sure it's alice and bob." .ok
      (.allUsers alice allUsersFile),
    .list allUsersFile [bob.name, alice.name] .sorted,
    .run "Instructing server to persist data." .ok (.persist alice)] ++
  stop alice ++
  [.begin "Overwrites of user data",
    .start "Restarting server:" .warm,
    .run "Setting alice's content." .ok (.setContent alice Fixture.oddLength.name),
    .run "Checking alice's content." .ok (.getContent alice alice.name),
    .fetched Fixture.oddLength.name alice.name,
    .run "Instructing server to persist data." .ok (.persist alice)] ++
  stop alice ++
  [.size directoryFile (Directory.size stored), .directory directoryFile stored, .clean]

/-- Content that is overwritten again and again. -/
def contentStress : List Step :=
  let alice := players.alice
  let rounds :=
    [("Setting alice's content (text).", Fixture.shortText),
      ("Overwriting alice's content (text).", Fixture.longText),
      ("Setting alice's content (binary).", Fixture.everyByte),
      ("Overwriting alice's content (binary).", Fixture.oddLength)]
  freshStart "Repeated SETPFILE and GETPFILE" ++
  [.run "Registering a user" .ok (.register alice)] ++
  rounds.flatMap (fun (description, fixture) =>
    [.run description .ok (.setContent alice fixture.name),
      .run "Checking alice's content." .ok (.getContent alice alice.name),
      .fetched fixture.name alice.name]) ++
  shutDown "Shutting down" alice directoryFile false

end Scenario

/-- The steps of a suite. -/
def Suite.steps (players : Players) (directoryFile : Path) : Suite → List Step
  | registration => Scenario.registration players directoryFile
  | authentication => Scenario.authentication players directoryFile
  | content => Scenario.content players directoryFile
  | allUsers => Scenario.allUsers players directoryFile
  | persistAuth => Scenario.persistAuth players directoryFile
  | persistence => Scenario.persistence players directoryFile
  | persistRestart => Scenario.persistRestart players directoryFile
  | restartSmoke => Scenario.restartSmoke players directoryFile
  | contentStress => Scenario.contentStress players directoryFile

end Conformance
