import FakeMuduo.Http.Exchange
import FakeMuduo.Http.ResponseVersion

/-! The example server: files are read once, in as many reads as it takes,
and served from memory. -/

namespace FakeMuduo.Http

open FakeMuduo.Base FakeMuduo.Net FakeMuduo.Util HttpContext Conversation

namespace HttpResponse

def addHeader (response : HttpResponse) (field value : Text) : HttpResponse :=
  { response with headers := response.headers.assign field value }

def setBody (response : HttpResponse) (body : Text) : HttpResponse := { response with body }

end HttpResponse

namespace ReadSmallFile

def k128KB : Nat := 1024 * 128

/-- What is found under a name; for a directory, with the `errno` that some call left before. -/
inductive Entry where
  | missing (errno : Errno)
  | regular (content : Text)
  | directory (errno : Errno)
  | other

/-- What `::read` returned: an error, or how many bytes. -/
abbrev ReadAnswer := Except Errno Nat

/-- Every read gives something. -/
def Delivers (answers : List ReadAnswer) : Prop :=
  ∀ answer ∈ answers, ∃ count, answer = .ok count ∧ 0 < count

/-- The loop of `readToString`, as long as there are answers; the reads of a file give
its bytes in order. -/
def readLoop (file : Text) (contentSize : Nat) (content : Text) (readStart : Nat) (err : Errno) :
    List ReadAnswer → Option (Text × Errno)
  | [] => if readStart < contentSize then none else some (content, err)
  | answer :: answers =>
    if readStart < contentSize then
      match answer with
      | .error errno => some (content, errno)
      | .ok count =>
        let data := window file readStart (min count (contentSize - readStart))
        if data = [] then some (content, err)
        else readLoop file contentSize (store content readStart data)
          (readStart + data.length) err answers
    else
      some (content, err)

/-- `readFile` into an empty string. -/
def readFile (entry : Entry) (maxContentSize : Nat) (answers : List ReadAnswer) :
    Option (Text × Errno) :=
  match entry with
  | .missing errno | .directory errno => some ([], errno)
  | .other => some ([], 0)
  | .regular file =>
    let contentSize := min maxContentSize file.length
    readLoop file contentSize (List.replicate contentSize 0) 0 0 answers

variable {file content result : Text} {contentSize readStart : Nat} {err errno : Errno}
  {answers : List ReadAnswer}

/-- The bytes read are put behind those read before. -/
theorem take_store {count : Nat} (same : content.take readStart = file.take readStart)
    (room : readStart + count ≤ content.length) (inside : readStart + count ≤ file.length) :
    (store content readStart (window file readStart count)).take (readStart + count) =
      file.take (readStart + count) := by
  have length : (window file readStart count).length = count := window_length inside
  have kept : window (store content readStart (window file readStart count)) 0 readStart =
      window content 0 readStart :=
    window_store_of_disjoint _ _ (.inl (Nat.le_of_eq (Nat.zero_add _)))
  have stored : window (store content readStart (window file readStart count)) readStart
      (window file readStart count).length = window file readStart count :=
    window_store (by rw [length]; exact room)
  rw [length] at stored
  calc
    _ = window (store content readStart (window file readStart count)) 0 (readStart + count) := rfl
    _ = window content 0 readStart ++ window file readStart count := by
      rw [window_add, Nat.zero_add, kept, stored]
    _ = window file 0 readStart ++ window file readStart count := congrArg (· ++ _) same
    _ = window file 0 (readStart + count) := by rw [window_add, Nat.zero_add]

/-- Reads that each give something give all of it. -/
theorem readLoop_reads (delivers : Delivers answers)
    (size : content.length = contentSize) (present : contentSize ≤ file.length)
    (started : readStart ≤ contentSize) (same : content.take readStart = file.take readStart)
    (returned : readLoop file contentSize content readStart err answers = some (result, errno)) :
    result = file.take contentSize ∧ errno = err := by
  have finished (content : Text) (readStart : Nat) (size : content.length = contentSize)
      (started : readStart ≤ contentSize) (stops : ¬ readStart < contentSize)
      (same : content.take readStart = file.take readStart) : content = file.take contentSize := by
    obtain rfl : readStart = contentSize := by omega
    rw [← same, List.take_of_length_le (Nat.le_of_eq size)]
  induction answers generalizing content readStart with
  | nil =>
    unfold readLoop at returned
    split at returned
    · cases returned
    · rename_i stops
      cases returned
      exact ⟨finished _ _ size started stops same, rfl⟩
  | cons answer answers ih =>
    obtain ⟨count, rfl, positive⟩ := delivers answer List.mem_cons_self
    unfold readLoop at returned
    split at returned
    · have length : (window file readStart (min count (contentSize - readStart))).length =
          min count (contentSize - readStart) := window_length (by omega)
      dsimp only at returned
      split at returned
      · rename_i empty
        rw [empty, List.length_nil] at length
        omega
      · refine ih (fun other member => delivers other (List.mem_cons_of_mem _ member))
          ?_ ?_ ?_ returned
        · rw [store_length, size]
        · omega
        · rw [length]
          exact take_store same (by omega) (by omega)
    · rename_i stops
      cases returned
      exact ⟨finished _ _ size started stops same, rfl⟩

/-- A regular file is read up to the limit. -/
theorem readFile_regular {maxContentSize : Nat} (delivers : Delivers answers)
    (returned : readFile (.regular file) maxContentSize answers = some (result, errno)) :
    result = file.take maxContentSize := by
  have read := readLoop_reads delivers List.length_replicate (Nat.min_le_right _ _)
    (Nat.zero_le _) rfl returned
  rw [read.1]
  exact List.take_eq_take_min.symm

end ReadSmallFile

namespace FileServer

/-- The paths of the files. -/
def paths : List Text := [ascii "/index.html", ascii "/xxx.jpg", ascii "/favicon.ico"]

/-- The files as `main` reads them, if it gets that far. -/
def load (root : Text) (disk : Text → ReadSmallFile.Entry)
    (answers : Text → List ReadSmallFile.ReadAnswer) :
    Option (List (Text × Text)) :=
  paths.mapM fun path => do
    let (content, _) ← ReadSmallFile.readFile (disk (root ++ path))
      ReadSmallFile.k128KB (answers path)
    return (path, content)

/-- `path.back()`; of an empty path it is the byte before its storage. -/
def back (stray : Byte) (path : Text) : Byte := path.getLast?.getD stray

/-- The path with the name of the index behind a slash. -/
def completed (stray : Byte) (path : Text) : Text :=
  if back stray path = 47 then path ++ ascii "index.html" else path

def onRequest (stray : Byte) (files : List (Text × Text)) : HttpCallback Unit :=
  fun _ request response =>
  let path := completed stray request.path
  let response := (response.setVersion request.version).addHeader (ascii "Server") (ascii "Libfm")
  match request.method, files.lookup path with
  | .kGet, some body =>
    ((response.setStatusCode .k200OK).setStatusMessage (ascii "OK") |>.setBody body, ())
  | _, _ =>
    ((response.setStatusCode .k404NotFound).setStatusMessage
      (ascii "Not Found") |>.setCloseConnection true, ())

/-- The file a request asks for, a directory's index for the directory. -/
def asked (request : HttpRequest) : Option Text :=
  let path := if request.path.getLast? = some 47 then request.path ++ ascii "index.html"
    else request.path
  if request.method = .kGet ∧ path ∈ paths then some path else none

/-- The answer that the server is to give, from the files under its root. -/
def answer (contents : Text → Text) (request : HttpRequest) : HttpResponse :=
  match asked request with
  | some path =>
    ⟨request.version, .k200OK, ascii "OK", [(ascii "Server", ascii "Libfm")],
      HttpServer.closes request, (contents path).take ReadSmallFile.k128KB⟩
  | none => ⟨request.version, .k404NotFound, ascii "Not Found",
      [(ascii "Server", ascii "Libfm")], true, []⟩

/-- A table made entry by entry has the entries of its names. -/
theorem lookup_mapM {names : List Text} {entry : Text → Option (Text × Text)} {value : Text → Text}
    {files : List (Text × Text)}
    (named : ∀ name ∈ names, ∀ found, entry name = some found → found = (name, value name))
    (made : names.mapM entry = some files) (path : Text) :
    files.lookup path = if path ∈ names then some (value path) else none := by
  induction names generalizing files with
  | nil =>
    cases made
    rfl
  | cons name names ih =>
    rw [List.mapM_cons] at made
    obtain ⟨first, found, made⟩ := Option.bind_eq_some_iff.mp made
    obtain ⟨rest, later, made⟩ := Option.bind_eq_some_iff.mp made
    cases made
    cases named name List.mem_cons_self first found
    have others := ih (fun other member => named other (List.mem_cons_of_mem _ member)) later
    rw [List.lookup_cons, others]
    by_cases same : path = name
    · subst same
      simp
    · simp [same, beq_false_of_ne same]

/-- The byte before an empty path makes no difference. -/
theorem asked_completed (stray : Byte) (path : Text) :
    (let indexed := if path.getLast? = some 47 then path ++ ascii "index.html" else path
      if indexed ∈ paths then some indexed else none) =
      if completed stray path ∈ paths then some (completed stray path) else none := by
  by_cases nothing : path = []
  · subst nothing
    have absent : completed stray [] ∉ paths := by
      unfold completed
      split <;> decide
    rw [if_neg absent]
    decide
  · have ending : back stray path = 47 ↔ path.getLast? = some 47 := by
      rw [back, List.getLast?_eq_some_getLast nothing]
      simp
    simp only [completed, ending]

/-- The files were there when they were read, and could be read. -/
structure Loaded (root : Text) (disk : Text → ReadSmallFile.Entry)
    (answers : Text → List ReadSmallFile.ReadAnswer) (contents : Text → Text)
    (files : List (Text × Text)) : Prop where
  returned : load root disk answers = some files
  regular : ∀ path ∈ paths, disk (root ++ path) = .regular (contents path)
  delivers : ∀ path ∈ paths, ReadSmallFile.Delivers (answers path)

section Load

variable {root : Text} {disk : Text → ReadSmallFile.Entry}
  {answers : Text → List ReadSmallFile.ReadAnswer} {files : List (Text × Text)}
  {contents : Text → Text}

theorem Loaded.lookup (loaded : Loaded root disk answers contents files) (path : Text) :
    files.lookup path =
      if path ∈ paths then some ((contents path).take ReadSmallFile.k128KB) else none := by
  refine @lookup_mapM paths _ (fun path => (contents path).take ReadSmallFile.k128KB) files ?_
    loaded.returned path
  intro name member found read
  obtain ⟨⟨content, errno⟩, returned, same⟩ := Option.bind_eq_some_iff.mp read
  cases same
  rw [loaded.regular name member] at returned
  rw [ReadSmallFile.readFile_regular (loaded.delivers name member) returned]

theorem respond_answer (loaded : Loaded root disk answers contents files) (stray : Byte)
    (request : HttpRequest) :
    (HttpServer.respond (onRequest stray files) () request).1 = answer contents request := by
  have lookup := loaded.lookup
  unfold HttpServer.respond onRequest answer
  dsimp only
  by_cases get : request.method = .kGet
  · rw [get, lookup (completed stray request.path)]
    have same : asked request =
        if completed stray request.path ∈ paths then
          some (completed stray request.path) else none := by
      simp only [asked, get, true_and]
      exact asked_completed stray request.path
    rw [same]
    by_cases known : completed stray request.path ∈ paths
    · simp only [if_pos known]
      rfl
    · simp only [if_neg known]
      rfl
  · have none : asked request = none := if_neg fun both => get both.1
    rw [none]
    split
    · rename_i method _
      exact absurd method get
    · rfl

theorem responses_answer (loaded : Loaded root disk answers contents files) (stray : Byte)
    (requests : List HttpRequest) :
    HttpServer.responses (onRequest stray files) () requests = requests.map (answer contents) := by
  induction requests with
  | nil => rfl
  | cons request requests ih =>
    rw [List.map_cons, ← ih, ← respond_answer loaded stray request]
    rfl

end Load

theorem answer_framable {contents : Text → Text} {text : RequestText}
    (keeps : (answer contents text.request).closeConnection = false) :
    HttpResponse.Framable (answer contents text.request) := by
  unfold answer at keeps ⊢
  split
  · rename_i path found
    rw [found] at keeps
    refine ⟨keeps, text.knownVersion, by simp [ascii], ?_, ?_, ?_, ?_⟩
    · simp [ascii]
    · simp [ascii]
    · intro header member
      rw [List.mem_singleton.mp member]
      decide
    · have short : ((contents path).take ReadSmallFile.k128KB).length ≤ ReadSmallFile.k128KB :=
        List.length_take_le _ _
      exact Nat.lt_of_le_of_lt short (by decide)
  · rename_i missing
    rw [missing] at keeps
    cases keeps

section Client

variable {root : Text} {disk : Text → ReadSmallFile.Entry}
  {answers : Text → List ReadSmallFile.ReadAnswer} {files : List (Text × Text)}
  {contents : Text → Text} {log : Log} {fuel : Nat} {stray : Byte}
  {world : World (HttpSession Unit)} {steps : List Step}
  {writeCompleteCallback highWaterMarkCallback : Bool}

/-- From the files on disk to the bytes on the wire: whatever the sizes of the reads of the files
and of the reads and writes of the connection, well-formed requests are answered in order, each for
a file with up to 128KB of it, and the first that asks for no file, or to close, is the last. A
client that got all the bytes, none of them closing, finds the files in them. -/
theorem serves_files (loaded : Loaded root disk answers contents files)
    (run : (machine log (HttpServer.messageCallback (onRequest stray files) fuel)).Run
      (.initial writeCompleteCallback highWaterMarkCallback
        (HttpServer.onConnection (.create Buffer.kInitialSize) ())) steps world)
    {texts : List RequestText} (cut : arriving world.heard = stream texts)
    (enough : (stream texts).length < fuel)
    (ticks : EnoughTicks (endsFrom 0 (texts.map RequestText.bytes))
      (endsFrom 0 (world.heard.map Prod.fst))) :
    Answers world.conn (HttpResponse.untilClosed (texts.map (answer contents ·.request))).flatten
      (∃ text ∈ texts, (answer contents text.request).closeConnection = true) ∧
    ((∀ text ∈ texts, (answer contents text.request).closeConnection = false) →
      world.conn.outputBuffer.readableBytes = 0 →
      Client.receiveAll world.conn.socket.accepted =
        some (texts.map fun text => (answer contents text.request).message)) := by
  obtain ⟨conversing, hears⟩ := HttpServer.heard_received run
  have dispatched := HttpServer.dispatched_texts hears.received hears.fit cut enough ticks
  have responses : HttpServer.responses (onRequest stray files) () world.user.dispatched =
      texts.map (answer contents ·.request) := by
    have same : texts.map (answer contents ·.request) =
        (texts.map RequestText.request).map (answer contents) := by
      rw [List.map_map]
      rfl
    rw [responses_answer loaded, same, ← dispatched, List.map_map]
    rfl
  have closing :
      (∃ response ∈ texts.map (answer contents ·.request), response.closeConnection = true) =
        ∃ text ∈ texts, (answer contents text.request).closeConnection = true := by
    simp
  have answered := HttpServer.received_answers conversing hears.received hears.calls
  rw [responses, closing] at answered
  refine ⟨answered, ?_⟩
  intro keeps drained
  have stream := answered.stream
  rw [Buffer.toString_of_empty drained, List.append_nil] at stream
  rw [stream, HttpResponse.receiveAll_untilClosed, List.map_map]
  · rfl
  · intro response member
    obtain ⟨text, inside, rfl⟩ := List.mem_map.mp member
    exact answer_framable (keeps text inside)

/-- An index of two bytes; the other files are empty. -/
def smallFiles (path : Text) : Text := if path = ascii "/index.html" then ascii "hi" else []

/-- The index is read byte by byte. -/
def smallReads (path : Text) : List ReadSmallFile.ReadAnswer :=
  if path = ascii "/index.html" then [.ok 1, .ok 5] else []

theorem serves_files_twice :
    ∃ (files : List (Text × Text)) (world : World (HttpSession Unit)),
      load [] (fun path => .regular (smallFiles path)) smallReads = some files ∧
      (machine ⟨.kINFO, none⟩ (HttpServer.messageCallback (onRequest 0 files) 100)).Run
        (.initial false false (HttpServer.onConnection (.create Buffer.kInitialSize) ()))
        HttpServer.twoRequestSteps world ∧
      Client.receiveAll world.conn.socket.accepted =
        some ([HttpServer.getRoot, HttpServer.getRoot].map fun text =>
          (answer smallFiles text.request).message) := by
  let files : List (Text × Text) :=
    [(ascii "/index.html", ascii "hi"), (ascii "/xxx.jpg", []), (ascii "/favicon.ico", [])]
  have loaded : load [] (fun path => .regular (smallFiles path)) smallReads =
    some files := by decide
  have followed :
      (Machine.follow (perform ⟨.kINFO, none⟩ (HttpServer.messageCallback (onRequest 0 files) 100))
      (unbroken ⟨.kINFO, none⟩)
        (.initial false false (HttpServer.onConnection (.create Buffer.kInitialSize) ()))
      HttpServer.twoRequestSteps).any (fun world =>
        decide (world.conn.outputBuffer.readableBytes = 0 ∧
          arriving world.heard = stream [HttpServer.getRoot, HttpServer.getRoot] ∧
          EnoughTicks (endsFrom 0 ([HttpServer.getRoot, HttpServer.getRoot].map RequestText.bytes))
            (endsFrom 0 (world.heard.map Prod.fst)))) = true := by
    decide +kernel
  obtain ⟨world, run, final⟩ := Machine.Run.ofFollowAny
    (machine ⟨.kINFO, none⟩ (HttpServer.messageCallback (onRequest 0 files) 100))
    (fun allowed performed => ⟨allowed, performed⟩) followed
  obtain ⟨drained, cut, ticks⟩ := of_decide_eq_true final
  have delivers : ∀ path ∈ paths, ReadSmallFile.Delivers (smallReads path) := by
    intro path _ answer member
    unfold smallReads at member
    split at member
    · rcases List.mem_cons.mp member with rfl | later
      · exact ⟨1, rfl, by decide⟩
      · exact ⟨5, List.mem_singleton.mp later, by decide⟩
    · cases member
  have keeps : ∀ text ∈ [HttpServer.getRoot, HttpServer.getRoot],
      (answer smallFiles text.request).closeConnection = false := by
    decide
  exact ⟨files, world, loaded, run,
    (serves_files ⟨loaded, fun _ _ => rfl, delivers⟩ run cut (by decide) ticks).2 keeps drained⟩

end Client

end FileServer

end FakeMuduo.Http
