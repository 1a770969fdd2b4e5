import Adventure.Value.Basic

/-! The lighthouse, the game that comes with the library, as content. -/

namespace Adventure.Shelf.Lighthouse

/-- The entry `id`. -/
def idEntry : Value :=
  .str "lighthouse"

/-- The entry `name`. -/
def nameEntry : Value :=
  .str "The Dark Lighthouse"

/-- The entry `version`. -/
def versionEntry : Value :=
  .str "1.0.0"

/-- The entry `description`. -/
def descriptionEntry : Value :=
  .str "Relight the lamp before the fishing boats come home."

/-- The entry `startingRoom`. -/
def startingRoomEntry : Value :=
  .str "jetty"

/-- The entry `initialFlags`. -/
def initialFlagsEntry : Value :=
  .obj [
    ("LAMP_LIT", .bool false),
    ("oil", .int 0)]

/-- The entry `introText`. -/
def introTextEntry : Value :=
  .str "The storm has blown out the lighthouse lamp. Somewhere out there the boats are waiting for its beam."

/-- The entry `winMessage`. -/
def winMessageEntry : Value :=
  .str "The great lamp blazes across the water. One by one the boats turn for home. You relit the light in \x7bturns\x7d turns."

/-- The entry `hints`. -/
def hintsEntry : Value :=
  .arr [
    .obj [
      ("id", .str "hint-keeper"),
      ("text", .str "The keeper on the jetty might know where the spare key is."),
      ("when", .arr [
        .obj [
          ("lacks", .str "brass-key")]])],
    .obj [
      ("id", .str "hint-oil"),
      ("text", .str "The lamp needs oil. Two measures should do it."),
      ("when", .arr [
        .obj [
          ("lt", .arr [
            .str "oil",
            .int 2])]])],
    .obj [
      ("id", .str "hint-light"),
      ("text", .str "Strike a match at the lamp."),
      ("when", .arr [
        .obj [
          ("gte", .arr [
            .str "oil",
            .int 2])]])]]

/-- The entry `globalTriggers`. -/
def globalTriggersEntry : Value :=
  .arr [
    .obj [
      ("id", .str "lamp-ready"),
      ("when", .arr [
        .obj [
          ("gte", .arr [
            .str "oil",
            .int 2])],
        .obj [
          ("once", .str "event.lamp_ready")]]),
      ("effects", .arr [
        .obj [
          ("set", .arr [
            .str "LAMP_READY",
            .bool true])]])]]

/-- The room `jetty`. -/
def roomJetty : Value :=
  .obj [
    ("id", .str "jetty"),
    ("name", .str "Stone Jetty"),
    ("description", .obj [
      ("id", .str "jetty-desc"),
      ("fragments", .arr [
        .obj [
          ("say", .str "Waves slap against the jetty. The lighthouse door stands to the north.")],
        .obj [
          ("say", .str "The lighthouse tower is dark against the clouds."),
          ("when", .arr [
            .obj [
              ("falsy", .str "LAMP_LIT")]]),
          ("group", .str "tower")],
        .obj [
          ("say", .str "The beam sweeps over your head."),
          ("when", .arr [
            .obj [
              ("truthy", .str "LAMP_LIT")]]),
          ("group", .str "tower")],
        .obj [
          ("say", .str "You have been out here a while now; your coat is soaked through."),
          ("when", .arr [
            .obj [
              ("gt", .arr [
                .str "turnCount",
                .int 10])]]),
          ("priority", .int 0)]])]),
    ("items", .arr [
      .obj [
        ("id", .str "crate"),
        ("name", .str "fish crate"),
        ("description", .str "A crate that smells of herring."),
        ("examineText", .str "An old fish crate. Something glints between the slats."),
        ("takeable", .bool false),
        ("aliases", .arr [
          .str "crate",
          .str "box"])],
      .obj [
        ("id", .str "matches"),
        ("name", .str "box of matches"),
        ("description", .str "A damp box of matches."),
        ("examineText", .str "A box of matches. A few still look dry."),
        ("takeable", .bool true),
        ("aliases", .arr [
          .str "matches"]),
        ("location", .str "crate")]]),
    ("npcs", .arr [
      .obj [
        ("id", .str "keeper"),
        ("name", .str "Old Keeper"),
        ("description", .str "The old keeper huddles under an oilskin, nursing a twisted ankle."),
        ("aliases", .arr [
          .str "keeper",
          .str "old man"]),
        ("dialogue", .arr [
          .obj [
            ("when", .arr [
              .obj [
                ("once", .str "talk.keeper.lamp")]]),
            ("playerLine", .str "What happened to the light?"),
            ("response", .str "Wind blew the flame out and I fell on the stairs. The lamp wants oil and a flame.")],
          .obj [
            ("when", .arr [
              .obj [
                ("lacks", .str "brass-key")]]),
            ("playerLine", .str "Do you have a key to the tower?"),
            ("response", .str "Spare key's on my belt. Take it, and hurry."),
            ("effects", .arr [
              .obj [
                ("addItem", .str "brass-key")]])],
          .obj [
            ("when", .arr [
              .obj [
                ("once", .str "talk.keeper.storm")]]),
            ("playerLine", .str "Will the storm last?"),
            ("response", .str "Till dawn, I reckon.")]])]]),
    ("exits", .arr [
      .obj [
        ("targetRoomId", .str "tower"),
        ("aliases", .arr [
          .str "north",
          .str "n",
          .str "door"]),
        ("locked", .bool true),
        ("requiredItem", .str "brass-key"),
        ("blockedMessage", .str "The lighthouse door is locked.")]])]

/-- The room `tower`. -/
def roomTower : Value :=
  .obj [
    ("id", .str "tower"),
    ("name", .str "Tower Stairs"),
    ("description", .str "An iron staircase spirals up into the gloom. Barrels of lamp oil line the wall."),
    ("items", .arr [
      .obj [
        ("id", .str "brass-key"),
        ("name", .str "brass key"),
        ("description", .str "A heavy brass key."),
        ("examineText", .str "The keeper's spare key, warm from his belt."),
        ("takeable", .bool true),
        ("aliases", .arr [
          .str "key"]),
        ("location", .str "keeper-belt")],
      .obj [
        ("id", .str "keeper-belt"),
        ("name", .str "spare belt"),
        ("description", .str "A hook for the keeper's spare belt."),
        ("examineText", .str "An empty hook."),
        ("takeable", .bool false),
        ("aliases", .arr [
          .str "hook"])],
      .obj [
        ("id", .str "oil-can"),
        ("name", .str "oil can"),
        ("description", .str "A dented can for carrying lamp oil."),
        ("examineText", .str "A dented oil can with a long spout."),
        ("takeable", .bool true),
        ("aliases", .arr [
          .str "can"])]]),
    ("npcs", .arr []),
    ("exits", .arr [
      .obj [
        ("targetRoomId", .str "jetty"),
        ("aliases", .arr [
          .str "south",
          .str "s",
          .str "out"])],
      .obj [
        ("targetRoomId", .str "lamp-room"),
        ("aliases", .arr [
          .str "up",
          .str "u",
          .str "stairs"])]]),
    ("triggers", .arr [
      .obj [
        ("id", .str "first-climb"),
        ("when", .arr [
          .obj [
            ("once", .str "event.tower_entered")]]),
        ("effects", .arr [
          .obj [
            ("set", .arr [
              .str "SEEN_TOWER",
              .bool true])]]),
        ("message", .str "Your footsteps ring on the iron stairs.")]])]

/-- The room `lamp-room`. -/
def roomLampRoom : Value :=
  .obj [
    ("id", .str "lamp-room"),
    ("name", .str "Lamp Room"),
    ("description", .obj [
      ("id", .str "lamp-desc"),
      ("fragments", .arr [
        .obj [
          ("say", .str "The great lamp sits behind thick lenses, cold and dark."),
          ("when", .arr [
            .obj [
              ("falsy", .str "LAMP_LIT")]])],
        .obj [
          ("say", .str "The lamp blazes behind its lenses."),
          ("when", .arr [
            .obj [
              ("truthy", .str "LAMP_LIT")]]),
          ("priority", .int 1)],
        .obj [
          ("say", .str "Its reservoir is full."),
          ("when", .arr [
            .obj [
              ("gte", .arr [
                .str "oil",
                .int 2])]]),
          ("group", .str "reservoir")],
        .obj [
          ("say", .str "Its reservoir is almost dry."),
          ("when", .arr [
            .obj [
              ("lt", .arr [
                .str "oil",
                .int 2])]]),
          ("group", .str "reservoir")]])]),
    ("items", .arr [
      .obj [
        ("id", .str "lamp"),
        ("name", .str "great lamp"),
        ("description", .str "The lighthouse lamp."),
        ("examineText", .str "A brass reservoir feeds the wick. It takes two measures of oil."),
        ("takeable", .bool false),
        ("aliases", .arr [
          .str "lamp",
          .str "reservoir"]),
        ("useActions", .arr [
          .obj [
            ("targetId", .str "oil-can"),
            ("requires", .arr [
              .obj [
                ("lt", .arr [
                  .str "oil",
                  .int 2])]]),
            ("response", .str "You pour a measure of oil into the reservoir."),
            ("effects", .arr [
              .obj [
                ("add", .arr [
                  .str "oil",
                  .int 1])]])],
          .obj [
            ("targetId", .str "oil-can"),
            ("response", .str "The reservoir is already full.")],
          .obj [
            ("targetId", .str "matches"),
            ("requires", .arr [
              .obj [
                ("truthy", .str "LAMP_READY")]]),
            ("response", .str "The wick catches."),
            ("effects", .arr [
              .obj [
                ("set", .arr [
                  .str "LAMP_LIT",
                  .bool true])],
              .obj [
                ("set", .arr [
                  .str "won",
                  .bool true])],
              .obj [
                ("set", .arr [
                  .str "gameOver",
                  .bool true])]])],
          .obj [
            ("targetId", .str "matches"),
            ("response", .str "There is not enough oil to hold a flame.")]])],
      .obj [
        ("id", .str "dial"),
        ("name", .str "rotation dial"),
        ("description", .str "A brass dial that sets the beam's rotation."),
        ("examineText", .str "A dial numbered 1 to 12. The boats know the signal as 7."),
        ("takeable", .bool false),
        ("aliases", .arr [
          .str "dial"]),
        ("useActions", .arr [
          .obj [
            ("number", .int 7),
            ("response", .str "The dial clicks to 7. The lens begins to turn."),
            ("effects", .arr [
              .obj [
                ("set", .arr [
                  .str "ROTATION",
                  .int 7])]])],
          .obj [
            ("numberAny", .bool true),
            ("response", .str "The dial clicks, but that is not the signal the boats know.")]])]]),
    ("npcs", .arr []),
    ("exits", .arr [
      .obj [
        ("targetRoomId", .str "tower"),
        ("aliases", .arr [
          .str "down",
          .str "d",
          .str "stairs"])]])]

/-- The content of the lighthouse game. -/
def content : Value :=
  .obj [
    ("id", idEntry),
    ("name", nameEntry),
    ("version", versionEntry),
    ("description", descriptionEntry),
    ("startingRoom", startingRoomEntry),
    ("initialFlags", initialFlagsEntry),
    ("introText", introTextEntry),
    ("winMessage", winMessageEntry),
    ("hints", hintsEntry),
    ("globalTriggers", globalTriggersEntry),
    ("rooms", .arr [roomJetty, roomTower, roomLampRoom])]

end Adventure.Shelf.Lighthouse
