import DerivedQuery.Unicode.Casing

/-!
# Help texts

An overview of the program and a text on each of its topics, which are known under several names.

Mirrors `DocCategory` with `from_name`, `get_docs_overview` and `get_doc_category`.
-/

namespace DerivedQuery.CommandLine

/-- The text of lines, each with a line feed at its end. -/
def asText (lines : List String) : String := String.join (lines.map (· ++ "\n"))

/-! ## Texts -/

/-- What the program does, and its topics. -/
def overview : String := asText [
  "MAPGEN DOCUMENTATION",
  "",
  "mapgen derives SQL statements from the names and signatures of data-access",
  "methods. A method called findByNameAndAgeGreaterThan(String name, int age)",
  "returning List<Person> becomes a SELECT over the person table filtered by name",
  "and age, without any query text being written.",
  "",
  "DOCUMENTATION CATEGORIES",
  "",
  "  operations        Leading keywords: find, get, count, exists, delete, ...",
  "  conditions        The By clause: properties, comparators, And/Or, Selective",
  "  ordering          The OrderBy clause",
  "  types             How parameter and return types are classified",
  "  manifest          The manifest file describing a mapper and its types",
  "  statements        The statements generated for each operation",
  "",
  "QUICK REFERENCE",
  "",
  "  findByName                        WHERE name = #{name}",
  "  findByAAndBOrC                    WHERE a = ? AND b = ? OR c = ?",
  "  countByAgeBetween                 SELECT COUNT(*) ... age BETWEEN ? AND ?",
  "  findByIdIn                        WHERE id IN (...)",
  "  findAllOrderByIdDesc              ORDER BY id DESC",
  "  insertSelective                   insert only non-null fields",
  "",
  "Run 'mapgen doc <category>' for detailed documentation.",
  "Run 'mapgen parse <name>' to see how a method name is read."]

/-- About the keywords at the start of a name. -/
def operationsText : String := asText [
  "OPERATIONS - Leading Keywords",
  "",
  "Every derivable method name starts with a lower-case operation keyword.",
  "Names that do not are skipped as not derivable.",
  "",
  "  find      Select matching rows",
  "  get       Select a single row (LIMIT 1)",
  "  count     Count matching rows",
  "  exists    Test whether any row matches",
  "  delete    Delete matching rows",
  "  insert    Insert the bean parameter",
  "  update    Update matching rows from the bean parameter",
  "  page      Select one page, bounded by `offset` and `limit` parameters",
  "",
  "MODIFIERS (directly after the keyword)",
  "  All",
  "    Unfiltered or batch form.",
  "",
  "    Examples:",
  "      findAll                  every row",
  "      insertAll(List<Person>)  one multi-row insert",
  "",
  "  Selective",
  "    Only non-null bean properties are written.",
  "",
  "    Examples:",
  "      insertSelective(Person)",
  "      updateSelectiveById(Person)",
  "",
  "  Constraints:",
  "    - All comes before Selective: insertAllSelective, not insertSelectiveAll",
  "    - A batch insert cannot be selective"]

/-- About the clause of conditions. -/
def conditionsText : String := asText [
  "CONDITIONS - The By Clause",
  "",
  "PROPERTIES",
  "  By<Property>",
  "    Any run of words that is not a keyword names a property. The first",
  "    letter is lower-cased: ByFirstName compares firstName.",
  "",
  "  Nested properties are joined with '_':",
  "    findByAddress_City      address.city",
  "",
  "COMPARATORS (after the property; default is equality)",
  "  (none)             =          1 operand",
  "  Not                !=         1 operand",
  "  GreaterThan        >          1 operand",
  "  GreaterThanEqual   >=         1 operand",
  "  LessThan           <          1 operand",
  "  LessThanEqual      <=         1 operand",
  "  Like               LIKE       1 operand",
  "  NotLike            NOT LIKE   1 operand",
  "  Containing         LIKE %x%   1 operand",
  "  StartingWith       LIKE x%    1 operand",
  "  EndingWith         LIKE %x    1 operand",
  "  In                 IN (...)   1 iterable operand",
  "  NotIn              NOT IN     1 iterable operand",
  "  IsNull             IS NULL    no operand",
  "  IsNotNull          IS NOT NULL  no operand",
  "  Between            BETWEEN    2 operands",
  "",
  "CONNECTIVES",
  "  And binds tighter than Or:",
  "    findByAAndBOrC          (a AND b) OR c",
  "",
  "OPERANDS",
  "  Scalar parameters are bound to conditions in declaration order, each",
  "  condition taking as many parameters as its comparator needs. A method",
  "  whose only argument is a bean binds conditions to the bean's properties.",
  "",
  "    findByNameAndAgeGreaterThan(String name, int age)",
  "    deleteById(Person person)        id = #{id}",
  "",
  "SELECTIVE",
  "  A condition or group is only applied when its parameters are non-null.",
  "",
  "    findByNameSelective              leaf: name = ? only if name != null",
  "    findBySelectiveNameAndAge        group: (name AND age) only if both set",
  "",
  "  Constraints:",
  "    - A dangling connective (findByNameAnd) is an error",
  "    - Anything left after a complete name (findByNameAsc) is an error"]

/-- About the clause of sort keys. -/
def orderingText : String := asText [
  "ORDERING - The OrderBy Clause",
  "",
  "  OrderBy<Property>[Asc|Desc]...",
  "    One or more sort keys, ascending unless Desc follows.",
  "",
  "    Examples:",
  "      findAllOrderByIdDesc                   ORDER BY id DESC",
  "      findByNameOrderByAgeDescIdAsc          ORDER BY age DESC, id ASC"]

/-- About the classification of types. -/
def typesText : String := asText [
  "TYPES - Parameter and Return Classification",
  "",
  "Each parameter and return type is classified as one of:",
  "",
  "  SCALAR      Primitives and types under an opaque prefix (java.lang,",
  "              java.util, java.time, java.math, java.sql, ...)",
  "  ITERABLE    Arrays and types implementing java.lang.Iterable; the element",
  "              type is classified in turn",
  "  BEAN        Any other declared type; its fields with both a getter and a",
  "              setter become columns",
  "  VOID        void",
  "",
  "GENERICS",
  "  A type variable used in a super-interface method is replaced by the",
  "  argument the mapper supplies:",
  "",
  "    interface BaseMapper<T> { T findById(long id); }",
  "    interface PersonMapper extends BaseMapper<Person> {}",
  "",
  "  findById returns Person when derived for PersonMapper.",
  "",
  "  Constraints:",
  "    - Nesting is limited to 2 levels: Person[] and List<Person>[] resolve,",
  "      List<List<Person>[]> does not",
  "    - A raw List (no type argument) is not supported",
  "    - A parameter that cannot be classified is left out of the method",
  "    - A return type that cannot be classified rejects the method"]

/-- About the manifest. -/
def manifestText : String := asText [
  "MANIFEST - Describing a Mapper",
  "",
  "A manifest (.yaml, .yml or .json) names the mapper and declares the types",
  "its methods use.",
  "",
  "  mapper: com.example.PersonMapper",
  "  config:",
  "    namespace: com.example.PersonMapper   # default: the mapper name",
  "    table: person                         # default: mapper name minus \"Mapper\"",
  "    naming: lower_under_score             # upper_under_score, lower_camel,",
  "                                          # upper_camel, identity",
  "    opaque_prefixes: [java., javax.]      # replaces the defaults",
  "    iterable_type: java.lang.Iterable",
  "    platform_types: true                  # preload java.util collections",
  "  types:",
  "    - name: com.example.PersonMapper",
  "      kind: interface",
  "      interfaces: [com.example.BaseMapper<com.example.Person>]",
  "      methods:",
  "        - name: findByName",
  "          params:",
  "            - { name: name, type: java.lang.String }",
  "          returns: java.util.List<com.example.Person>",
  "        - name: findByHand",
  "          statement: SELECT 1           # hand-written, never derived",
  "",
  "FIELDS",
  "  - { name: id, type: long, generated_key: true }",
  "  - { name: fullName, type: java.lang.String, column: full_name_col }",
  "",
  "PARAMETERS",
  "  - { name: n, type: java.lang.String, alias: name }",
  "  - { name: name, type: java.lang.String, column: display_name }"]

/-- About the statements of each operation. -/
def statementsText : String := asText [
  "STATEMENTS - Generated SQL",
  "",
  "  find / page     SELECT <columns> FROM <table> [WHERE ...] [ORDER BY ...]",
  "  get             ... LIMIT 1",
  "  page            ... LIMIT #{limit} OFFSET #{offset}",
  "  count           SELECT COUNT(*) FROM <table> ...",
  "  exists          SELECT COUNT(*) > 0 FROM <table> ...",
  "  delete          DELETE FROM <table> [WHERE ...]",
  "  insert          INSERT INTO <table> (<columns>) VALUES (...)",
  "  update          UPDATE <table> SET <assignments> [WHERE ...]",
  "",
  "Columns are the return bean's fields, as `column AS field` where the names",
  "differ, or * for a non-bean return.",
  "",
  "EXISTING DOCUMENTS",
  "  With --existing, statements already present in the document are kept as",
  "  they are and no statement is generated for their method. The document's",
  "  namespace must match the mapper's."]

/-! ## Topics -/

/-- The topics there are texts on. -/
inductive Topic
  | operations
  | conditions
  | ordering
  | types
  | manifest
  | statements
deriving DecidableEq, Repr

namespace Topic

/-- The text on a topic. -/
def text : Topic → String
  | operations => operationsText
  | conditions => conditionsText
  | ordering => orderingText
  | types => typesText
  | manifest => manifestText
  | statements => statementsText

/-- The names of the topics. -/
def names : List (String × Topic) := [
  ("operations", operations), ("operation", operations), ("ops", operations),
  ("conditions", conditions), ("condition", conditions), ("comparators", conditions),
  ("predicates", conditions),
  ("ordering", ordering), ("order", ordering), ("order_by", ordering),
  ("types", types), ("type", types),
  ("manifest", manifest), ("config", manifest),
  ("statements", statements), ("statement", statements), ("sql", statements)]

/-- The topic of a name in any case, in which a hyphen can stand for an underscore. -/
def ofName? (name : String) : Option Topic :=
  names.lookup ((Unicode.lowerText name).map fun c => if c == '-' then '_' else c)

end Topic

end DerivedQuery.CommandLine
