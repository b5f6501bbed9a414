import Decouple.Text.CodePoint

/-!
# Names of emoji

The names of emoji by their code points, in the order of the code points.
-/

namespace Decouple

namespace Emoji

/-!
## Names of signs

The emoji below U+1F300: signs, digits, letters and arrows.
-/

/-- Names of signs: rows of consecutive code points, the names of one with commas between them. -/
def signs : List (Nat × List String) := [
  (0xA9, ["copyright"]),
  (0xAE, ["registered"]),
  (0x203C, ["double_exclamation_mark,bangbang"]),
  (0x2049, ["exclamation_question_mark,interrobang"]),
  (0x2122, ["trade_mark,tm"]),
  (0x2139, ["information,information_source"]),
  (0x2194, ["left-right_arrow,left_right_arrow;up-down_arrow,arrow_up_down",
    "up-left_arrow,arrow_upper_left;up-right_arrow,arrow_upper_right",
    "down-right_arrow,arrow_lower_right;down-left_arrow,arrow_lower_left"]),
  (0x21A9, ["right_arrow_curving_left,leftwards_arrow_with_hook",
    "left_arrow_curving_right,arrow_right_hook"]),
  (0x231A, ["watch;hourglass_done,hourglass"]),
  (0x2328, ["keyboard"]),
  (0x2388, ["helm_symbol"]),
  (0x23CF, ["eject_button,eject_symbol"]),
  (0x23E9, ["fast-forward_button,fast_forward;fast_reverse_button,rewind",
    "fast_up_button,arrow_double_up;fast_down_button,arrow_double_down",
    "next_track_button,black_right__pointing_double_triangle_with_vertical_bar",
    "last_track_button,black_left__pointing_double_triangle_with_vertical_bar",
    "play_or_pause_button,black_right__pointing_triangle_with_double_vertical_bar;alarm_clock",
    "stopwatch;timer_clock;hourglass_not_done,hourglass_flowing_sand"]),
  (0x23F8, ["pause_button,double_vertical_bar;stop_button,black_square_for_stop",
    "record_button,black_circle_for_record"]),
  (0x24C2, ["circled_m,m"]),
  (0x25AA, ["black_small_square;white_small_square"]),
  (0x25B6, ["play_button,arrow_forward"]),
  (0x25C0, ["reverse_button,arrow_backward"]),
  (0x25FB, ["white_medium_square;black_medium_square",
    "white_medium-small_square,white_medium_small_square",
    "black_medium-small_square,black_medium_small_square;;sun,sunny;cloud;umbrella;snowman",
    "comet"]),
  (0x260E, ["telephone,phone;;;ballot_box_with_check;;;umbrella_with_rain_drops",
    "hot_beverage,coffee;;;shamrock"]),
  (0x261D, ["index_pointing_up~,point_up;;;skull_and_crossbones;;radioactive,radioactive_sign",
    "biohazard,biohazard_sign;;;orthodox_cross;;;;star_and_crescent;;;;peace_symbol;yin_yang"]),
  (0x2638, ["wheel_of_dharma;frowning_face,white_frowning_face;smiling_face,relaxed"]),
  (0x2640, ["female_sign;;male_sign"]),
  (0x2648, ["aries;taurus;gemini;cancer;leo;virgo;libra;scorpio,scorpius;sagittarius;capricorn",
    "aquarius;pisces"]),
  (0x265F, ["chess_pawn;spade_suit,spades;;;club_suit,clubs;;heart_suit,hearts",
    "diamond_suit,diamonds;;hot_springs,hotsprings"]),
  (0x267B, ["recycling_symbol,recycle;;;infinity;wheelchair_symbol,wheelchair"]),
  (0x2692, ["hammer_and_pick;anchor;crossed_swords;medical_symbol;balance_scale,scales;alembic;",
    "gear;;atom_symbol;fleur-de-lis,fleur__de__lis;;;;warning;high_voltage,zap"]),
  (0x26AA, ["white_circle;black_circle"]),
  (0x26B0, ["coffin;funeral_urn"]),
  (0x26BD, ["soccer_ball,soccer;baseball"]),
  (0x26C4, ["snowman_without_snow;sun_behind_cloud,partly_sunny;;",
    "cloud_with_lightning_and_rain,thunder_cloud_and_rain"]),
  (0x26CE, ["ophiuchus;pick;;rescue_worker’s_helmet,helmet_with_white_cross;;chains;no_entry"]),
  (0x26E9, ["shinto_shrine;church"]),
  (0x26F0, ["mountain;umbrella_on_ground;fountain;flag_in_hole,golf;ferry;sailboat,boat;;skier",
    "ice_skate;person_bouncing_ball~,person_with_ball;tent;;;fuel_pump,fuelpump"]),
  (0x2702, ["scissors;;;white_heavy_check_mark,white_check_mark;;;airplane;envelope,email",
    "raised_fist~,fist;raised_hand~,hand;victory_hand~,v;writing_hand~;;pencil2;;;black_nib;",
    "heavy_check_mark;;heavy_multiplication_x"]),
  (0x271D, ["latin_cross;;;;star_of_david"]),
  (0x2728, ["sparkles"]),
  (0x2733, ["eight-spoked_asterisk,eight_spoked_asterisk",
    "eight-pointed_star,eight_pointed_black_star"]),
  (0x2744, ["snowflake;;;sparkle"]),
  (0x274C, ["cross_mark,x;;cross_mark_button,negative_squared_cross_mark"]),
  (0x2753, ["question_mark,question;white_question_mark,grey_question",
    "white_exclamation_mark,grey_exclamation;",
    "exclamation_mark,exclamation,heavy_exclamation_mark"]),
  (0x2763, ["heavy_heart_exclamation,heavy_heart_exclamation_mark_ornament;red_heart,heart"]),
  (0x2795, ["heavy_plus_sign;heavy_minus_sign;heavy_division_sign"]),
  (0x27A1, ["right_arrow,arrow_right"]),
  (0x27B0, ["curly_loop"]),
  (0x27BF, ["double_curly_loop,loop"]),
  (0x2934, ["right_arrow_curving_up,arrow_heading_up",
    "right_arrow_curving_down,arrow_heading_down"]),
  (0x2B05, ["left_arrow,arrow_left;up_arrow,arrow_up;down_arrow,arrow_down"]),
  (0x2B1B, ["black_large_square;white_large_square"]),
  (0x2B50, ["white_medium_star,star"]),
  (0x2B55, ["heavy_large_circle,o"]),
  (0x3030, ["wavy_dash"]),
  (0x303D, ["part_alternation_mark"]),
  (0x3297, ["japanese_congratulations_button,congratulations;;japanese_secret_button,secret"]),
  (0x1F004, ["mahjong_red_dragon,mahjong"]),
  (0x1F0CF, ["joker,black_joker"]),
  (0x1F170, ["a_button_(blood_type),a;b_button_(blood_type),b"]),
  (0x1F17E, ["o_button_(blood_type),o2;p_button,parking"]),
  (0x1F18E, ["ab_button_(blood_type),ab;;;cl_button,cl;cool_button,cool;free_button,free",
    "id_button,id;new_button,new;ng_button,ng;ok_button,ok;sos_button,sos;up!_button,up",
    "vs_button,vs"]),
  (0x1F1E6, ["regional_indicator_symbol_letter_a,regional_indicator_a",
    "regional_indicator_symbol_letter_b,regional_indicator_b",
    "regional_indicator_symbol_letter_c,regional_indicator_c",
    "regional_indicator_symbol_letter_d,regional_indicator_d",
    "regional_indicator_symbol_letter_e,regional_indicator_e",
    "regional_indicator_symbol_letter_f,regional_indicator_f",
    "regional_indicator_symbol_letter_g,regional_indicator_g",
    "regional_indicator_symbol_letter_h,regional_indicator_h",
    "regional_indicator_symbol_letter_i,regional_indicator_i",
    "regional_indicator_symbol_letter_j,regional_indicator_j",
    "regional_indicator_symbol_letter_k,regional_indicator_k",
    "regional_indicator_symbol_letter_l,regional_indicator_l",
    "regional_indicator_symbol_letter_m,regional_indicator_m",
    "regional_indicator_symbol_letter_n,regional_indicator_n",
    "regional_indicator_symbol_letter_o,regional_indicator_o",
    "regional_indicator_symbol_letter_p,regional_indicator_p",
    "regional_indicator_symbol_letter_q,regional_indicator_q",
    "regional_indicator_symbol_letter_r,regional_indicator_r",
    "regional_indicator_symbol_letter_s,regional_indicator_s",
    "regional_indicator_symbol_letter_t,regional_indicator_t",
    "regional_indicator_symbol_letter_u,regional_indicator_u",
    "regional_indicator_symbol_letter_v,regional_indicator_v",
    "regional_indicator_symbol_letter_w,regional_indicator_w",
    "regional_indicator_symbol_letter_x,regional_indicator_x",
    "regional_indicator_symbol_letter_y,regional_indicator_y",
    "regional_indicator_symbol_letter_z,regional_indicator_z;;japanese_here_button,koko",
    "japanese_service_charge_button,sa"]),
  (0x1F21A, ["japanese_free_of_charge_button,u7121"]),
  (0x1F22F, ["japanese_reserved_button,u6307;;;japanese_prohibited_button,u7981",
    "japanese_vacancy_button,u7a7a;japanese_passing_grade_button,u5408",
    "japanese_no_vacancy_button,u6e80;japanese_not_free_of_charge_button,u6709",
    "japanese_monthly_amount_button,u6708;japanese_application_button,u7533",
    "japanese_discount_button,u5272;japanese_open_for_business_button,u55b6"]),
  (0x1F250, ["japanese_bargain_button,ideograph_advantage;japanese_acceptable_button,accept"])]

/-!
## Names of pictures

The emoji from U+1F300 to U+1F5FF: nature, food, things and places.
-/

/-- Names of pictures. -/
def pictures : List (Nat × List String) := [
  (0x1F300, ["cyclone;foggy;closed_umbrella;night_with_stars;sunrise_over_mountains;sunrise",
    "cityscape_at_dusk,city_sunset;sunset,city_sunrise;rainbow;bridge_at_night;water_wave,ocean",
    "volcano;milky_way;globe_showing_europe-africa,earth_africa",
    "globe_showing_americas,earth_americas;globe_showing_asia-australia,earth_asia",
    "globe_with_meridians;new_moon;waxing_crescent_moon;first_quarter_moon",
    "waxing_gibbous_moon,moon;full_moon;waning_gibbous_moon;last_quarter_moon",
    "waning_crescent_moon;crescent_moon;new_moon_face,new_moon_with_face",
    "first_quarter_moon_face,first_quarter_moon_with_face",
    "last_quarter_moon_face,last_quarter_moon_with_face;full_moon_face,full_moon_with_face",
    "sun_with_face;glowing_star,star2;shooting_star,stars;thermometer;;",
    "sun_behind_small_cloud,white_sun_with_small_cloud",
    "sun_behind_large_cloud,white_sun_behind_cloud",
    "sun_behind_rain_cloud,white_sun_behind_cloud_with_rain;cloud_with_rain;cloud_with_snow",
    "cloud_with_lightning;tornado,cloud_with_tornado;fog;wind_face,wind_blowing_face;hot_dog",
    "taco;burrito;chestnut;seedling;evergreen_tree;deciduous_tree;palm_tree;cactus;hot_pepper",
    "tulip;cherry_blossom;rose;hibiscus;sunflower;blossom;ear_of_corn,corn",
    "sheaf_of_rice,ear_of_rice;herb;four_leaf_clover;maple_leaf;fallen_leaf",
    "leaf_fluttering_in_wind,leaves;mushroom;tomato;eggplant;grapes;melon;watermelon;tangerine",
    "lemon;banana;pineapple;red_apple,apple;green_apple;pear;peach;cherries;strawberry",
    "hamburger;pizza;meat_on_bone;poultry_leg;rice_cracker;rice_ball;cooked_rice,rice",
    "curry_rice,curry;steaming_bowl,ramen;spaghetti;bread;french_fries,fries",
    "roasted_sweet_potato,sweet_potato;dango;oden;sushi;fried_shrimp",
    "fish_cake_with_swirl,fish_cake;soft_ice_cream,icecream;shaved_ice;ice_cream;doughnut",
    "cookie;chocolate_bar;candy;lollipop;custard;honey_pot;shortcake,cake;bento_box,bento",
    "pot_of_food,stew;cooking,egg;fork_and_knife;teacup_without_handle,tea;sake;wine_glass",
    "cocktail_glass,cocktail;tropical_drink;beer_mug,beer;clinking_beer_mugs,beers;baby_bottle",
    "fork_and_knife_with_plate;bottle_with_popping_cork;popcorn;ribbon;wrapped_gift,gift",
    "birthday_cake,birthday;jack-o-lantern,jack_o_lantern;christmas_tree;santa_claus~,santa",
    "fireworks;sparkler;balloon;party_popper,tada;confetti_ball;tanabata_tree;crossed_flags",
    "pine_decoration,bamboo;japanese_dolls,dolls;carp_streamer,flags;wind_chime",
    "moon_viewing_ceremony,rice_scene;school_backpack,school_satchel",
    "graduation_cap,mortar_board;;;military_medal;reminder_ribbon;;studio_microphone",
    "level_slider;control_knobs;;;film_frames;admission_tickets;carousel_horse;ferris_wheel",
    "roller_coaster;fishing_pole,fishing_pole_and_fish;microphone;movie_camera;cinema",
    "headphone,headphones;artist_palette,art;top_hat,tophat;circus_tent;ticket",
    "clapper_board,clapper;performing_arts;video_game;direct_hit,dart;slot_machine",
    "pool_8_ball,8ball;game_die;bowling;flower_playing_cards;musical_note;musical_notes,notes",
    "saxophone;guitar;musical_keyboard;trumpet;violin;musical_score",
    "running_shirt,running_shirt_with_sash;tennis;skis,ski;basketball",
    "chequered_flag,checkered_flag;snowboarder~;person_running~,runner,running",
    "person_surfing~,surfer;sports_medal;trophy;horse_racing~;american_football,football",
    "rugby_football;person_swimming~,swimmer;person_lifting_weights~,weight_lifter",
    "person_golfing~,golfer;motorcycle,racing_motorcycle;racing_car",
    "cricket_game,cricket_bat_and_ball;volleyball;field_hockey,field_hockey_stick_and_ball",
    "ice_hockey,ice_hockey_stick_and_puck;ping_pong,table_tennis_paddle_and_ball",
    "snow-capped_mountain,snow_capped_mountain;camping;beach_with_umbrella",
    "building_construction;houses,house_buildings;cityscape",
    "derelict_house,derelict_house_building;classical_building;desert;desert_island",
    "national_park;stadium;house;house_with_garden;office_building,office",
    "japanese_post_office,post_office;european_post_office;hospital;bank;atm_sign,atm;hotel",
    "love_hotel;convenience_store;school;department_store;factory",
    "red_paper_lantern,izakaya_lantern,lantern;japanese_castle;castle,european_castle;;",
    "white_flag,waving_white_flag;black_flag,waving_black_flag;rosette;;label",
    "badminton,badminton_racquet_and_shuttlecock;bow_and_arrow;amphora",
    "light_skin_tone,emoji_modifier_fitzpatrick_type__1__2",
    "medium_light_skin_tone,emoji_modifier_fitzpatrick_type__3",
    "medium_skin_tone,emoji_modifier_fitzpatrick_type__4",
    "medium_dark_skin_tone,emoji_modifier_fitzpatrick_type__5",
    "dark_skin_tone,emoji_modifier_fitzpatrick_type__6;rat;mouse2;ox;water_buffalo;cow2;tiger2",
    "leopard;rabbit2;cat2;dragon;crocodile;whale2;snail;snake;racehorse;ram;goat;ewe,sheep",
    "monkey;rooster;chicken;dog2;pig2;boar;elephant;octopus;spiral_shell,shell;bug;ant",
    "honeybee,bee;lady_beetle,beetle;fish;tropical_fish;blowfish;turtle;hatching_chick",
    "baby_chick;front-facing_baby_chick,hatched_chick;bird;penguin;koala;poodle;dromedary_camel",
    "camel,two-hump_camel;dolphin,flipper;mouse,mouse_face;cow,cow_face;tiger,tiger_face",
    "rabbit,rabbit_face;cat,cat_face;dragon_face;spouting_whale,whale;horse,horse_face",
    "monkey_face;dog,dog_face;pig,pig_face;frog_face,frog;hamster_face,hamster;wolf_face,wolf",
    "bear_face,bear;panda_face;pig_nose;paw_prints,feet;chipmunk;eyes;eye;ear~;nose~;mouth,lips",
    "tongue;backhand_index_pointing_up~,point_up_2;backhand_index_pointing_down~,point_down",
    "backhand_index_pointing_left~,point_left;backhand_index_pointing_right~,point_right",
    "oncoming_fist~,facepunch,punch;waving_hand~,wave;ok_hand~;thumbs_up~,+1,thumbsup",
    "thumbs_down~,__1,-1,thumbsdown;clapping_hands~,clap;open_hands~;crown",
    "woman’s_hat,womans_hat;glasses,eyeglasses;necktie;t-shirt,shirt,tshirt;jeans;dress;kimono",
    "bikini;woman’s_clothes,womans_clothes;purse;handbag;clutch_bag,pouch",
    "man’s_shoe,mans_shoe,shoe;running_shoe,athletic_shoe;high-heeled_shoe,high_heel",
    "woman’s_sandal,sandal;woman’s_boot,boot;footprints;bust_in_silhouette;busts_in_silhouette",
    "boy~;girl~;man~;woman~;family;man_and_woman_holding_hands,couple;two_men_holding_hands",
    "two_women_holding_hands;police_officer~,cop;people_with_bunny_ears,dancers",
    "bride_with_veil~;blond-haired_person~,person_with_blond_hair",
    "man_with_chinese_cap~,man_with_gua_pi_mao;person_wearing_turban~,man_with_turban",
    "old_man~,older_man;old_woman~,older_woman;baby~;construction_worker~;princess~",
    "ogre,japanese_ogre;goblin,japanese_goblin;ghost;baby_angel~,angel;alien",
    "alien_monster,space_invader;angry_face_with_horns,imp;skull",
    "person_tipping_hand~,information_desk_person;guard~,guardsman;woman_dancing~,dancer",
    "lipstick;nail_polish~,nail_care;person_getting_massage~,massage",
    "person_getting_haircut~,haircut;barber_pole,barber;syringe;pill;kiss,kiss_mark;love_letter",
    "ring;gem_stone,gem;couplekiss;bouquet;couple_with_heart;wedding;beating_heart,heartbeat",
    "broken_heart;two_hearts;sparkling_heart;growing_heart,heartpulse;heart_with_arrow,cupid",
    "blue_heart;green_heart;yellow_heart;purple_heart;heart_with_ribbon,gift_heart",
    "revolving_hearts;heart_decoration;diamond_with_a_dot,diamond_shape_with_a_dot_inside",
    "light_bulb,bulb;anger_symbol,anger;bomb;zzz;collision,boom;sweat_droplets,sweat_drops",
    "droplet;dashing_away,dash;pile_of_poo,hankey,poop,shit;flexed_biceps~,muscle;dizzy",
    "speech_balloon;thought_balloon;white_flower;hundred_points,100;money_bag,moneybag",
    "currency_exchange;heavy_dollar_sign;credit_card;yen_banknote,yen;dollar_banknote,dollar",
    "euro_banknote,euro;pound_banknote,pound;money_with_wings;chart_increasing_with_yen,chart",
    "seat;laptop_computer,computer;briefcase;computer_disk,minidisc;floppy_disk;optical_disk,cd",
    "dvd;file_folder;open_file_folder;page_with_curl;page_facing_up;date",
    "calendar,tear-off_calendar;card_index;chart_increasing,chart_with_upwards_trend",
    "chart_decreasing,chart_with_downwards_trend;bar_chart;clipboard;pushpin;round_pushpin",
    "paperclip;straight_ruler;triangular_ruler;bookmark_tabs;ledger;notebook",
    "notebook_with_decorative_cover;closed_book;open_book,book;green_book;blue_book;orange_book",
    "books;name_badge;scroll;memo,pencil;telephone_receiver;pager;fax_machine,fax",
    "satellite,satellite_antenna;loudspeaker;megaphone,mega;outbox_tray;inbox_tray;package",
    "e-mail,e__mail;incoming_envelope;envelope_with_arrow",
    "closed_mailbox_with_lowered_flag,mailbox_closed;closed_mailbox_with_raised_flag,mailbox",
    "open_mailbox_with_raised_flag,mailbox_with_mail",
    "open_mailbox_with_lowered_flag,mailbox_with_no_mail;postbox;postal_horn;newspaper",
    "mobile_phone,iphone;mobile_phone_with_arrow,calling;vibration_mode;mobile_phone_off",
    "no_mobile_phones;antenna_bars,signal_strength;camera;camera_with_flash;video_camera",
    "television,tv;radio;videocassette,vhs;film_projector;;prayer_beads",
    "shuffle_tracks_button,twisted_rightwards_arrows;repeat_button,repeat",
    "repeat_single_button,repeat_one;clockwise_vertical_arrows,arrows_clockwise",
    "counterclockwise_arrows_button,arrows_counterclockwise;dim_button,low_brightness",
    "bright_button,high_brightness;muted_speaker,mute;speaker_low_volume,speaker",
    "speaker_medium_volume,sound;speaker_high_volume,loud_sound;battery;electric_plug",
    "magnifying_glass_tilted_left,mag;magnifying_glass_tilted_right,mag_right",
    "locked_with_pen,lock_with_ink_pen;locked_with_key,closed_lock_with_key;key;locked,lock",
    "unlocked,unlock;bell;bell_with_slash,no_bell;bookmark;link;radio_button;back_arrow,back",
    "end_arrow,end;on!_arrow,on;soon_arrow,soon;top_arrow,top;no_one_under_eighteen,underage",
    "keycap_10,ten;input_latin_uppercase,capital_abcd;input_latin_lowercase,abcd",
    "input_numbers,1234;input_symbols,symbols;input_latin_letters,abc;fire;flashlight;wrench",
    "hammer;nut_and_bolt;kitchen_knife,hocho,knife;pistol,gun;microscope;telescope;crystal_ball",
    "dotted_six-pointed_star,six_pointed_star;japanese_symbol_for_beginner,beginner",
    "trident_emblem,trident;black_square_button;white_square_button;red_circle",
    "blue_circle,large_blue_circle;large_orange_diamond;large_blue_diamond;small_orange_diamond",
    "small_blue_diamond;red_triangle_pointed_up,small_red_triangle",
    "red_triangle_pointed_down,small_red_triangle_down;upwards_button,arrow_up_small",
    "downwards_button,arrow_down_small"]),
  (0x1F549, ["om,om_symbol;dove,dove_of_peace;kaaba;mosque;synagogue",
    "menorah,menorah_with_nine_branches;;one_o’clock,clock1;two_o’clock,clock2",
    "three_o’clock,clock3;four_o’clock,clock4;five_o’clock,clock5;six_o’clock,clock6",
    "seven_o’clock,clock7;eight_o’clock,clock8;nine_o’clock,clock9;ten_o’clock,clock10",
    "eleven_o’clock,clock11;twelve_o’clock,clock12;one-thirty,clock130;two-thirty,clock230",
    "three-thirty,clock330;four-thirty,clock430;five-thirty,clock530;six-thirty,clock630",
    "seven-thirty,clock730;eight-thirty,clock830;nine-thirty,clock930;ten-thirty,clock1030",
    "eleven-thirty,clock1130;twelve-thirty,clock1230"]),
  (0x1F56F, ["candle;mantelpiece_clock;;;hole",
    "man_in_suit_levitating~,man_in_business_suit_levitating;detective~,sleuth_or_spy",
    "dark_sunglasses;spider;spider_web;joystick;man_dancing~"]),
  (0x1F587, ["linked_paperclips;;;pen,lower_left_ballpoint_pen",
    "fountain_pen,lower_left_fountain_pen;paintbrush,lower_left_paintbrush",
    "crayon,lower_left_crayon;;;hand_with_fingers_splayed~,raised_hand_with_fingers_splayed"]),
  (0x1F595, ["middle_finger~,reversed_hand_with_middle_finger_extended",
    "vulcan_salute~,raised_hand_with_part_between_middle_and_ring_fingers"]),
  (0x1F5A4, ["black_heart;desktop_computer;;;printer"]),
  (0x1F5B1, ["computer_mouse,three_button_mouse;trackball"]),
  (0x1F5BC, ["framed_picture,frame_with_picture"]),
  (0x1F5C2, ["card_index_dividers;card_file_box;file_cabinet"]),
  (0x1F5D1, ["wastebasket;spiral_notepad,spiral_note_pad;spiral_calendar,spiral_calendar_pad"]),
  (0x1F5DC, ["clamp,compression;old_key;rolled-up_newspaper,rolled__up_newspaper;;",
    "dagger,dagger_knife;;speaking_head,speaking_head_in_silhouette"]),
  (0x1F5E8, ["left_speech_bubble"]),
  (0x1F5EF, ["right_anger_bubble;;;;ballot_box_with_ballot"]),
  (0x1F5FA, ["world_map;mount_fuji;tokyo_tower;statue_of_liberty;japan,map_of_japan;moai,moyai"])]

/-!
## Names of faces and further pictures

The emoji from U+1F600 on: faces, traffic, people and animals.
-/

/-- Names of faces and further pictures. -/
def faces : List (Nat × List String) := [
  (0x1F600, ["grinning_face,grinning;beaming_face_with_smiling_eyes,grin",
    "face_with_tears_of_joy,joy;grinning_face_with_big_eyes,smiley",
    "grinning_face_with_smiling_eyes,smile;grinning_face_with_sweat,sweat_smile",
    "grinning_squinting_face,laughing,satisfied;smiling_face_with_halo,innocent",
    "smiling_face_with_horns,smiling_imp;winking_face,wink;smiling_face_with_smiling_eyes,blush",
    "face_savoring_food,yum;relieved_face,relieved;smiling_face_with_heart-eyes,heart_eyes",
    "smiling_face_with_sunglasses,sunglasses;smirking_face,smirk;neutral_face",
    "expressionless_face,expressionless;unamused_face,unamused;downcast_face_with_sweat,sweat",
    "pensive_face,pensive;confused_face,confused;confounded_face,confounded",
    "kissing_face,kissing;face_blowing_a_kiss,kissing_heart",
    "kissing_face_with_smiling_eyes,kissing_smiling_eyes",
    "kissing_face_with_closed_eyes,kissing_closed_eyes;face_with_tongue,stuck_out_tongue",
    "winking_face_with_tongue,stuck_out_tongue_winking_eye",
    "squinting_face_with_tongue,stuck_out_tongue_closed_eyes;disappointed_face,disappointed",
    "worried_face,worried;angry_face,angry;pouting_face,rage;crying_face,cry",
    "persevering_face,persevere;face_with_steam_from_nose,triumph",
    "sad_but_relieved_face,disappointed_relieved;frowning_face_with_open_mouth,frowning",
    "anguished_face,anguished;fearful_face,fearful;weary_face,weary;sleepy_face,sleepy",
    "tired_face;grimacing_face,grimacing;loudly_crying_face,sob;face_with_open_mouth,open_mouth",
    "hushed_face,hushed;anxious_face_with_sweat,cold_sweat;face_screaming_in_fear,scream",
    "astonished_face,astonished;flushed_face,flushed;sleeping_face,sleeping;dizzy_face",
    "face_without_mouth,no_mouth;face_with_medical_mask,mask",
    "grinning_cat_face_with_smiling_eyes,smile_cat;cat_face_with_tears_of_joy,joy_cat",
    "grinning_cat_face,smiley_cat;smiling_cat_face_with_heart-eyes,heart_eyes_cat",
    "cat_face_with_wry_smile,smirk_cat;kissing_cat_face,kissing_cat",
    "pouting_cat_face,pouting_cat;crying_cat_face;weary_cat_face,scream_cat",
    "slightly_frowning_face;slightly_smiling_face;upside-down_face,upside__down_face",
    "face_with_rolling_eyes;person_gesturing_no~,no_good;person_gesturing_ok~,ok_woman",
    "person_bowing~,bow;see-no-evil_monkey,see_no_evil;hear-no-evil_monkey,hear_no_evil",
    "speak-no-evil_monkey,speak_no_evil;person_raising_hand~,raising_hand",
    "raising_hands~,raised_hands;person_frowning~;person_pouting~,person_with_pouting_face",
    "folded_hands~,pray"]),
  (0x1F680, ["rocket;helicopter;locomotive,steam_locomotive;railway_car",
    "high-speed_train,bullettrain_side;bullet_train,bullettrain_front;train2;metro;light_rail",
    "station;tram;train,tram_car;bus;oncoming_bus;trolleybus;bus_stop,busstop;minibus;ambulance",
    "fire_engine;police_car;oncoming_police_car;taxi;oncoming_taxi;automobile,car,red_car",
    "oncoming_automobile;sport_utility_vehicle,blue_car;delivery_truck,truck;articulated_lorry",
    "tractor;monorail;mountain_railway;suspension_railway;mountain_cableway;aerial_tramway;ship",
    "person_rowing_boat~,rowboat;speedboat;horizontal_traffic_light,traffic_light",
    "vertical_traffic_light;construction;police_car_light,rotating_light",
    "triangular_flag,triangular_flag_on_post;door;prohibited,no_entry_sign;cigarette,smoking",
    "no_smoking;litter_in_bin_sign,put_litter_in_its_place;no_littering,do_not_litter",
    "potable_water;non-potable_water,non__potable_water;bicycle,bike;no_bicycles",
    "person_biking~,bicyclist;person_mountain_biking~,mountain_bicyclist",
    "person_walking~,walking;no_pedestrians;children_crossing;men’s_room,mens",
    "women’s_room,womens;restroom;baby_symbol;toilet;water_closet,wc;shower",
    "person_taking_bath~,bath;bathtub;passport_control;customs;baggage_claim;left_luggage"]),
  (0x1F6CB, ["couch_and_lamp;person_in_bed~,sleeping_accommodation;shopping_bags;bellhop_bell",
    "bed;place_of_worship;stop_sign;shopping_cart;;;hindu_temple"]),
  (0x1F6E0, ["hammer_and_wrench;shield;oil_drum;motorway;railway_track;motor_boat;;;",
    "small_airplane;;airplane_departure;airplane_arrival,airplane_arriving"]),
  (0x1F6F3, ["passenger_ship;kick_scooter;motor_scooter;canoe;sled;flying_saucer;skateboard",
    "auto_rickshaw"]),
  (0x1F7E0, ["orange_circle;yellow_circle;green_circle;purple_circle;brown_circle;red_square",
    "blue_square;orange_square;yellow_square;green_square;purple_square;brown_square"]),
  (0x1F90D, ["white_heart;brown_heart;pinching_hand;zipper-mouth_face,zipper__mouth_face",
    "money-mouth_face,money__mouth_face;face_with_thermometer;nerd_face;thinking_face",
    "face_with_head-bandage,face_with_head__bandage;robot_face,robot;hugging_face",
    "sign_of_the_horns~;call_me_hand~;raised_back_of_hand~;left-facing_fist~;right-facing_fist~",
    "handshake;crossed_fingers~;love-you_gesture~;cowboy_hat_face;clown_face;nauseated_face",
    "rolling_on_the_floor_laughing;drooling_face;lying_face;person_facepalming~;sneezing_face",
    "face_with_raised_eyebrow;star-struck;zany_face;shushing_face;face_with_symbols_on_mouth",
    "face_with_hand_over_mouth;face_vomiting;exploding_head;pregnant_woman~;breast-feeding~",
    "palms_up_together~;selfie~;prince~;man_in_tuxedo~;mrs._claus~;person_shrugging~",
    "person_cartwheeling~;person_juggling~;person_fencing;;people_wrestling",
    "person_playing_water_polo~;person_playing_handball~;diving_mask;wilted_flower;drum",
    "clinking_glasses;tumbler_glass;spoon;goal_net;;1st_place_medal;2nd_place_medal",
    "3rd_place_medal;boxing_glove;martial_arts_uniform;curling_stone;lacrosse;softball",
    "flying_disc;croissant;avocado;cucumber;bacon;potato;carrot;baguette_bread;green_salad",
    "shallow_pan_of_food;stuffed_flatbread;;glass_of_milk;peanuts;kiwi_fruit;pancakes;dumpling",
    "fortune_cookie;takeout_box;chopsticks;bowl_with_spoon;cup_with_straw;coconut;broccoli;pie",
    "pretzel;cut_of_meat;sandwich;canned_food;leafy_green;mango;moon_cake;bagel",
    "smiling_face_with_3_hearts;yawning_face;;partying_face;woozy_face;hot_face;cold_face;;;",
    "pleading_face;sari;lab_coat;goggles;hiking_boot;flat_shoe;crab;lion_face;scorpion;turkey",
    "unicorn_face;eagle;duck;bat;shark;owl;fox_face;butterfly;deer;gorilla;lizard;rhinoceros",
    "shrimp;squid;giraffe;zebra;hedgehog;sauropod;t-rex;cricket;kangaroo;llama;peacock",
    "hippopotamus;parrot;raccoon;lobster;mosquito;microbe;badger;swan;;;sloth;otter;orangutan",
    "skunk;flamingo;oyster;;;;guide_dog;probing_cane;red_hair;curly_hair;bald;white_hair;bone",
    "leg;foot;tooth;superhero;supervillain;safety_vest;ear_with_hearing_aid",
    "motorized_wheelchair;manual_wheelchair;mechanical_arm;mechanical_leg;cheese_wedge;cupcake",
    "salt;beverage_box;garlic;onion;falafel;waffle;butter;mate;ice;;;person_standing",
    "person_kneeling;deaf_person;face_with_monocle;adult~;child~;older_adult~;bearded_person~",
    "woman_with_headscarf~;person_in_steamy_room~;person_climbing~;person_in_lotus_position~",
    "mage~;fairy~;vampire~;merperson~;elf~;genie;zombie;brain;orange_heart;billed_cap;scarf",
    "gloves;coat;socks;red_envelope;firecracker;jigsaw;test_tube;petri_dish;dna;compass;abacus",
    "fire_extinguisher;toolbox;brick;magnet;luggage;lotion_bottle;thread;yarn;safety_pin",
    "teddy_bear;broom;basket;roll_of_paper;soap;sponge;receipt;nazar_amulet"]),
  (0x1FA70, ["ballet_shoes;one-piece_swimsuit;briefs;shorts"]),
  (0x1FA78, ["drop_of_blood;adhesive_bandage;stethoscope"]),
  (0x1FA80, ["yo-yo;kite"]),
  (0x1FA90, ["ringed_planet;chair;razor;axe;diya_lamp;banjo"])]

/-!
## Names of sequences and flags

The emoji of several code points: people and things put together from others, and flags, which are
two letters of the code of a country.
-/

/-- Names of sequences. -/
def sequences : List (List Nat × String) := [
  ([0x23, 0x20E3], "keycap_number_sign"),
  ([0x23, 0xFE0F, 0x20E3], "keycap_#"),
  ([0x2A, 0x20E3], "keycap_asterisk"),
  ([0x2A, 0xFE0F, 0x20E3], "keycap_*"),
  ([0x30, 0x20E3], "keycap_digit_zero"),
  ([0x30, 0xFE0F, 0x20E3], "keycap_0,zero"),
  ([0x31, 0x20E3], "keycap_digit_one"),
  ([0x31, 0xFE0F, 0x20E3], "keycap_1,one"),
  ([0x32, 0x20E3], "keycap_digit_two"),
  ([0x32, 0xFE0F, 0x20E3], "keycap_2,two"),
  ([0x33, 0x20E3], "keycap_digit_three"),
  ([0x33, 0xFE0F, 0x20E3], "keycap_3,three"),
  ([0x34, 0x20E3], "keycap_digit_four"),
  ([0x34, 0xFE0F, 0x20E3], "keycap_4,four"),
  ([0x35, 0x20E3], "keycap_digit_five"),
  ([0x35, 0xFE0F, 0x20E3], "keycap_5,five"),
  ([0x36, 0x20E3], "keycap_digit_six"),
  ([0x36, 0xFE0F, 0x20E3], "keycap_6,six"),
  ([0x37, 0x20E3], "keycap_digit_seven"),
  ([0x37, 0xFE0F, 0x20E3], "keycap_7,seven"),
  ([0x38, 0x20E3], "keycap_digit_eight"),
  ([0x38, 0xFE0F, 0x20E3], "keycap_8,eight"),
  ([0x39, 0x20E3], "keycap_digit_nine"),
  ([0x39, 0xFE0F, 0x20E3], "keycap_9,nine"),
  ([0x26F9, 0xFE0F, 0x200D, 0x2640, 0xFE0F], "woman_bouncing_ball~"),
  ([0x26F9, 0xFE0F, 0x200D, 0x2642, 0xFE0F], "man_bouncing_ball~"),
  ([0x1F3C3, 0x200D, 0x2640, 0xFE0F], "woman_running~"),
  ([0x1F3C3, 0x200D, 0x2642, 0xFE0F], "man_running~"),
  ([0x1F3C4, 0x200D, 0x2640, 0xFE0F], "woman_surfing~"),
  ([0x1F3C4, 0x200D, 0x2642, 0xFE0F], "man_surfing~"),
  ([0x1F3CA, 0x200D, 0x2640, 0xFE0F], "woman_swimming~"),
  ([0x1F3CA, 0x200D, 0x2642, 0xFE0F], "man_swimming~"),
  ([0x1F3CB, 0xFE0F, 0x200D, 0x2640, 0xFE0F], "woman_lifting_weights~"),
  ([0x1F3CB, 0xFE0F, 0x200D, 0x2642, 0xFE0F], "man_lifting_weights~"),
  ([0x1F3CC, 0xFE0F, 0x200D, 0x2640, 0xFE0F], "woman_golfing~"),
  ([0x1F3CC, 0xFE0F, 0x200D, 0x2642, 0xFE0F], "man_golfing~"),
  ([0x1F3F3, 0xFE0F, 0x200D, 0x1F308], "rainbow_flag"),
  ([0x1F3F4, 0x200D, 0x2620, 0xFE0F], "pirate_flag"),
  ([0x1F3F4, 0xE0067, 0xE0062, 0xE0065, 0xE006E, 0xE0067, 0xE007F], "england"),
  ([0x1F3F4, 0xE0067, 0xE0062, 0xE0073, 0xE0063, 0xE0074, 0xE007F], "scotland"),
  ([0x1F3F4, 0xE0067, 0xE0062, 0xE0077, 0xE006C, 0xE0073, 0xE007F], "wales"),
  ([0x1F415, 0x200D, 0x1F9BA], "service_dog"),
  ([0x1F441, 0xFE0F, 0x200D, 0x1F5E8, 0xFE0F], "eye_in_speech_bubble"),
  ([0x1F468, 0x200D, 0x2695, 0xFE0F], "man_health_worker~"),
  ([0x1F468, 0x200D, 0x2696, 0xFE0F], "man_judge~"),
  ([0x1F468, 0x200D, 0x2708, 0xFE0F], "man_pilot~"),
  ([0x1F468, 0x200D, 0x2764, 0xFE0F, 0x200D, 0x1F468], "couple_with_heart_man_man"),
  ([0x1F468, 0x200D, 0x2764, 0xFE0F, 0x200D, 0x1F48B, 0x200D, 0x1F468], "kiss_man_man"),
  ([0x1F468, 0x200D, 0x1F33E], "man_farmer~"),
  ([0x1F468, 0x200D, 0x1F373], "man_cook~"),
  ([0x1F468, 0x200D, 0x1F393], "man_student~"),
  ([0x1F468, 0x200D, 0x1F3A4], "man_singer~"),
  ([0x1F468, 0x200D, 0x1F3A8], "man_artist~"),
  ([0x1F468, 0x200D, 0x1F3EB], "man_teacher~"),
  ([0x1F468, 0x200D, 0x1F3ED], "man_factory_worker~"),
  ([0x1F468, 0x200D, 0x1F466], "family_man_boy"),
  ([0x1F468, 0x200D, 0x1F466, 0x200D, 0x1F466], "family_man_boy_boy"),
  ([0x1F468, 0x200D, 0x1F467], "family_man_girl"),
  ([0x1F468, 0x200D, 0x1F467, 0x200D, 0x1F466], "family_man_girl_boy"),
  ([0x1F468, 0x200D, 0x1F467, 0x200D, 0x1F467], "family_man_girl_girl"),
  ([0x1F468, 0x200D, 0x1F468, 0x200D, 0x1F466], "family_man_man_boy"),
  ([0x1F468, 0x200D, 0x1F468, 0x200D, 0x1F466, 0x200D, 0x1F466], "family_man_man_boy_boy"),
  ([0x1F468, 0x200D, 0x1F468, 0x200D, 0x1F467], "family_man_man_girl"),
  ([0x1F468, 0x200D, 0x1F468, 0x200D, 0x1F467, 0x200D, 0x1F466], "family_man_man_girl_boy"),
  ([0x1F468, 0x200D, 0x1F468, 0x200D, 0x1F467, 0x200D, 0x1F467], "family_man_man_girl_girl"),
  ([0x1F468, 0x200D, 0x1F469, 0x200D, 0x1F466], "family_man_woman_boy"),
  ([0x1F468, 0x200D, 0x1F469, 0x200D, 0x1F466, 0x200D, 0x1F466], "family_man_woman_boy_boy"),
  ([0x1F468, 0x200D, 0x1F469, 0x200D, 0x1F467], "family_man_woman_girl"),
  ([0x1F468, 0x200D, 0x1F469, 0x200D, 0x1F467, 0x200D, 0x1F466], "family_man_woman_girl_boy"),
  ([0x1F468, 0x200D, 0x1F469, 0x200D, 0x1F467, 0x200D, 0x1F467], "family_man_woman_girl_girl"),
  ([0x1F468, 0x200D, 0x1F4BB], "man_technologist~"),
  ([0x1F468, 0x200D, 0x1F4BC], "man_office_worker~"),
  ([0x1F468, 0x200D, 0x1F527], "man_mechanic~"),
  ([0x1F468, 0x200D, 0x1F52C], "man_scientist~"),
  ([0x1F468, 0x200D, 0x1F680], "man_astronaut~"),
  ([0x1F468, 0x200D, 0x1F692], "man_firefighter~"),
  ([0x1F468, 0x200D, 0x1F9AF], "man_with_probing_cane"),
  ([0x1F468, 0x200D, 0x1F9B0], "red-haired_man"),
  ([0x1F468, 0x200D, 0x1F9B1], "curly-haired_man"),
  ([0x1F468, 0x200D, 0x1F9B2], "bald_man"),
  ([0x1F468, 0x200D, 0x1F9B3], "white-haired_man"),
  ([0x1F468, 0x200D, 0x1F9BC], "man_in_motorized_wheelchair"),
  ([0x1F468, 0x200D, 0x1F9BD], "man_in_manual_wheelchair"),
  ([0x1F469, 0x200D, 0x2695, 0xFE0F], "woman_health_worker~"),
  ([0x1F469, 0x200D, 0x2696, 0xFE0F], "woman_judge~"),
  ([0x1F469, 0x200D, 0x2708, 0xFE0F], "woman_pilot~"),
  ([0x1F469, 0x200D, 0x2764, 0xFE0F, 0x200D, 0x1F468], "couple_with_heart_woman_man"),
  ([0x1F469, 0x200D, 0x2764, 0xFE0F, 0x200D, 0x1F469], "couple_with_heart_woman_woman"),
  ([0x1F469, 0x200D, 0x2764, 0xFE0F, 0x200D, 0x1F48B, 0x200D, 0x1F468], "kiss_woman_man"),
  ([0x1F469, 0x200D, 0x2764, 0xFE0F, 0x200D, 0x1F48B, 0x200D, 0x1F469], "kiss_woman_woman"),
  ([0x1F469, 0x200D, 0x1F33E], "woman_farmer~"),
  ([0x1F469, 0x200D, 0x1F373], "woman_cook~"),
  ([0x1F469, 0x200D, 0x1F393], "woman_student~"),
  ([0x1F469, 0x200D, 0x1F3A4], "woman_singer~"),
  ([0x1F469, 0x200D, 0x1F3A8], "woman_artist~"),
  ([0x1F469, 0x200D, 0x1F3EB], "woman_teacher~"),
  ([0x1F469, 0x200D, 0x1F3ED], "woman_factory_worker~"),
  ([0x1F469, 0x200D, 0x1F466], "family_woman_boy"),
  ([0x1F469, 0x200D, 0x1F466, 0x200D, 0x1F466], "family_woman_boy_boy"),
  ([0x1F469, 0x200D, 0x1F467], "family_woman_girl"),
  ([0x1F469, 0x200D, 0x1F467, 0x200D, 0x1F466], "family_woman_girl_boy"),
  ([0x1F469, 0x200D, 0x1F467, 0x200D, 0x1F467], "family_woman_girl_girl"),
  ([0x1F469, 0x200D, 0x1F469, 0x200D, 0x1F466], "family_woman_woman_boy"),
  ([0x1F469, 0x200D, 0x1F469, 0x200D, 0x1F466, 0x200D, 0x1F466], "family_woman_woman_boy_boy"),
  ([0x1F469, 0x200D, 0x1F469, 0x200D, 0x1F467], "family_woman_woman_girl"),
  ([0x1F469, 0x200D, 0x1F469, 0x200D, 0x1F467, 0x200D, 0x1F466], "family_woman_woman_girl_boy"),
  ([0x1F469, 0x200D, 0x1F469, 0x200D, 0x1F467, 0x200D, 0x1F467], "family_woman_woman_girl_girl"),
  ([0x1F469, 0x200D, 0x1F4BB], "woman_technologist~"),
  ([0x1F469, 0x200D, 0x1F4BC], "woman_office_worker~"),
  ([0x1F469, 0x200D, 0x1F527], "woman_mechanic~"),
  ([0x1F469, 0x200D, 0x1F52C], "woman_scientist~"),
  ([0x1F469, 0x200D, 0x1F680], "woman_astronaut~"),
  ([0x1F469, 0x200D, 0x1F692], "woman_firefighter~"),
  ([0x1F469, 0x200D, 0x1F9AF], "woman_with_probing_cane"),
  ([0x1F469, 0x200D, 0x1F9B0], "red-haired_woman"),
  ([0x1F469, 0x200D, 0x1F9B1], "curly-haired_woman"),
  ([0x1F469, 0x200D, 0x1F9B2], "bald_woman"),
  ([0x1F469, 0x200D, 0x1F9B3], "white-haired_woman"),
  ([0x1F469, 0x200D, 0x1F9BC], "woman_in_motorized_wheelchair"),
  ([0x1F469, 0x200D, 0x1F9BD], "woman_in_manual_wheelchair"),
  ([0x1F46E, 0x200D, 0x2640, 0xFE0F], "woman_police_officer~"),
  ([0x1F46E, 0x200D, 0x2642, 0xFE0F], "man_police_officer~"),
  ([0x1F46F, 0x200D, 0x2640, 0xFE0F], "women_with_bunny_ears"),
  ([0x1F46F, 0x200D, 0x2642, 0xFE0F], "men_with_bunny_ears"),
  ([0x1F471, 0x200D, 0x2640, 0xFE0F], "blond-haired_woman~"),
  ([0x1F471, 0x200D, 0x2642, 0xFE0F], "blond-haired_man~"),
  ([0x1F473, 0x200D, 0x2640, 0xFE0F], "woman_wearing_turban~"),
  ([0x1F473, 0x200D, 0x2642, 0xFE0F], "man_wearing_turban~"),
  ([0x1F477, 0x200D, 0x2640, 0xFE0F], "woman_construction_worker~"),
  ([0x1F477, 0x200D, 0x2642, 0xFE0F], "man_construction_worker~"),
  ([0x1F481, 0x200D, 0x2640, 0xFE0F], "woman_tipping_hand~"),
  ([0x1F481, 0x200D, 0x2642, 0xFE0F], "man_tipping_hand~"),
  ([0x1F482, 0x200D, 0x2640, 0xFE0F], "woman_guard~"),
  ([0x1F482, 0x200D, 0x2642, 0xFE0F], "man_guard~"),
  ([0x1F486, 0x200D, 0x2640, 0xFE0F], "woman_getting_massage~"),
  ([0x1F486, 0x200D, 0x2642, 0xFE0F], "man_getting_massage~"),
  ([0x1F487, 0x200D, 0x2640, 0xFE0F], "woman_getting_haircut~"),
  ([0x1F487, 0x200D, 0x2642, 0xFE0F], "man_getting_haircut~"),
  ([0x1F575, 0xFE0F, 0x200D, 0x2640, 0xFE0F], "woman_detective~"),
  ([0x1F575, 0xFE0F, 0x200D, 0x2642, 0xFE0F], "man_detective~"),
  ([0x1F645, 0x200D, 0x2640, 0xFE0F], "woman_gesturing_no~"),
  ([0x1F645, 0x200D, 0x2642, 0xFE0F], "man_gesturing_no~"),
  ([0x1F646, 0x200D, 0x2640, 0xFE0F], "woman_gesturing_ok~"),
  ([0x1F646, 0x200D, 0x2642, 0xFE0F], "man_gesturing_ok~"),
  ([0x1F647, 0x200D, 0x2640, 0xFE0F], "woman_bowing~"),
  ([0x1F647, 0x200D, 0x2642, 0xFE0F], "man_bowing~"),
  ([0x1F64B, 0x200D, 0x2640, 0xFE0F], "woman_raising_hand~"),
  ([0x1F64B, 0x200D, 0x2642, 0xFE0F], "man_raising_hand~"),
  ([0x1F64D, 0x200D, 0x2640, 0xFE0F], "woman_frowning~"),
  ([0x1F64D, 0x200D, 0x2642, 0xFE0F], "man_frowning~"),
  ([0x1F64E, 0x200D, 0x2640, 0xFE0F], "woman_pouting~"),
  ([0x1F64E, 0x200D, 0x2642, 0xFE0F], "man_pouting~"),
  ([0x1F6A3, 0x200D, 0x2640, 0xFE0F], "woman_rowing_boat~"),
  ([0x1F6A3, 0x200D, 0x2642, 0xFE0F], "man_rowing_boat~"),
  ([0x1F6B4, 0x200D, 0x2640, 0xFE0F], "woman_biking~"),
  ([0x1F6B4, 0x200D, 0x2642, 0xFE0F], "man_biking~"),
  ([0x1F6B5, 0x200D, 0x2640, 0xFE0F], "woman_mountain_biking~"),
  ([0x1F6B5, 0x200D, 0x2642, 0xFE0F], "man_mountain_biking~"),
  ([0x1F6B6, 0x200D, 0x2640, 0xFE0F], "woman_walking~"),
  ([0x1F6B6, 0x200D, 0x2642, 0xFE0F], "man_walking~"),
  ([0x1F926, 0x200D, 0x2640, 0xFE0F], "woman_facepalming~"),
  ([0x1F926, 0x200D, 0x2642, 0xFE0F], "man_facepalming~"),
  ([0x1F937, 0x200D, 0x2640, 0xFE0F], "woman_shrugging~"),
  ([0x1F937, 0x200D, 0x2642, 0xFE0F], "man_shrugging~"),
  ([0x1F938, 0x200D, 0x2640, 0xFE0F], "woman_cartwheeling~"),
  ([0x1F938, 0x200D, 0x2642, 0xFE0F], "man_cartwheeling~"),
  ([0x1F939, 0x200D, 0x2640, 0xFE0F], "woman_juggling~"),
  ([0x1F939, 0x200D, 0x2642, 0xFE0F], "man_juggling~"),
  ([0x1F93C, 0x200D, 0x2640, 0xFE0F], "women_wrestling"),
  ([0x1F93C, 0x200D, 0x2642, 0xFE0F], "men_wrestling"),
  ([0x1F93D, 0x200D, 0x2640, 0xFE0F], "woman_playing_water_polo~"),
  ([0x1F93D, 0x200D, 0x2642, 0xFE0F], "man_playing_water_polo~"),
  ([0x1F93E, 0x200D, 0x2640, 0xFE0F], "woman_playing_handball~"),
  ([0x1F93E, 0x200D, 0x2642, 0xFE0F], "man_playing_handball~"),
  ([0x1F9D1, 0x200D, 0x1F91D, 0x200D, 0x1F9D1], "people_holding_hands"),
  ([0x1F9D6, 0x200D, 0x2640, 0xFE0F], "woman_in_steamy_room~"),
  ([0x1F9D6, 0x200D, 0x2642, 0xFE0F], "man_in_steamy_room~"),
  ([0x1F9D7, 0x200D, 0x2640, 0xFE0F], "woman_climbing~"),
  ([0x1F9D7, 0x200D, 0x2642, 0xFE0F], "man_climbing~"),
  ([0x1F9D8, 0x200D, 0x2640, 0xFE0F], "woman_in_lotus_position~"),
  ([0x1F9D8, 0x200D, 0x2642, 0xFE0F], "man_in_lotus_position~"),
  ([0x1F9D9, 0x200D, 0x2640, 0xFE0F], "woman_mage~"),
  ([0x1F9D9, 0x200D, 0x2642, 0xFE0F], "man_mage~"),
  ([0x1F9DA, 0x200D, 0x2640, 0xFE0F], "woman_fairy~"),
  ([0x1F9DA, 0x200D, 0x2642, 0xFE0F], "man_fairy~"),
  ([0x1F9DB, 0x200D, 0x2640, 0xFE0F], "woman_vampire~"),
  ([0x1F9DB, 0x200D, 0x2642, 0xFE0F], "man_vampire~"),
  ([0x1F9DC, 0x200D, 0x2640, 0xFE0F], "mermaid~"),
  ([0x1F9DC, 0x200D, 0x2642, 0xFE0F], "merman~"),
  ([0x1F9DD, 0x200D, 0x2640, 0xFE0F], "woman_elf~"),
  ([0x1F9DD, 0x200D, 0x2642, 0xFE0F], "man_elf~"),
  ([0x1F9DE, 0x200D, 0x2640, 0xFE0F], "woman_genie"),
  ([0x1F9DE, 0x200D, 0x2642, 0xFE0F], "man_genie"),
  ([0x1F9DF, 0x200D, 0x2640, 0xFE0F], "woman_zombie"),
  ([0x1F9DF, 0x200D, 0x2642, 0xFE0F], "man_zombie")]

/-- The codes of countries, each with the name of the country, which names its flag with and
without `flag_for_` before it. -/
def countries : List String := [
  "ac:ascension_island;ad:andorra;ae:united_arab_emirates;af:afghanistan;ag:antigua_&_barbuda",
  "ai:anguilla;al:albania;am:armenia;ao:angola;aq:antarctica;ar:argentina;as:american_samoa",
  "at:austria;au:australia;aw:aruba;ax:åland_islands;az:azerbaijan;ba:bosnia_&_herzegovina",
  "bb:barbados;bd:bangladesh;be:belgium;bf:burkina_faso;bg:bulgaria;bh:bahrain;bi:burundi",
  "bj:benin;bl:st._barthélemy;bm:bermuda;bn:brunei;bo:bolivia;bq:caribbean_netherlands;br:brazil",
  "bs:bahamas;bt:bhutan;bv:bouvet_island;bw:botswana;by:belarus;bz:belize;ca:canada",
  "cf:central_african_republic;ch:switzerland;ci:côte_d’ivoire;ck:cook_islands;cl:chile",
  "cm:cameroon;cn:china;co:colombia;cp:clipperton_island;cr:costa_rica;cu:cuba;cv:cape_verde",
  "cw:curaçao;cx:christmas_island;cy:cyprus;de:germany;dg:diego_garcia;dj:djibouti;dk:denmark",
  "dm:dominica;do:dominican_republic;dz:algeria;ea:ceuta_&_melilla;ec:ecuador;ee:estonia;eg:egypt",
  "eh:western_sahara;er:eritrea;es:spain;et:ethiopia;eu:european_union;fi:finland;fj:fiji",
  "fk:falkland_islands;fm:micronesia;fo:faroe_islands;fr:france;ga:gabon;gb:united_kingdom",
  "gd:grenada;ge:georgia;gf:french_guiana;gg:guernsey;gh:ghana;gi:gibraltar;gl:greenland",
  "gm:gambia;gn:guinea;gp:guadeloupe;gq:equatorial_guinea;gr:greece",
  "gs:south_georgia_&_south_sandwich_islands;gt:guatemala;gu:guam;gy:guyana",
  "hm:heard_&_mcdonald_islands;hn:honduras;hr:croatia;ht:haiti;hu:hungary;ic:canary_islands",
  "id:indonesia;ie:ireland;il:israel;im:isle_of_man;in:india;io:british_indian_ocean_territory",
  "iq:iraq;ir:iran;is:iceland;it:italy;je:jersey;jm:jamaica;jo:jordan;ke:kenya;kg:kyrgyzstan",
  "kh:cambodia;ki:kiribati;km:comoros;kn:st._kitts_&_nevis;kp:north_korea;kr:south_korea",
  "kw:kuwait;ky:cayman_islands;kz:kazakhstan;la:laos;lb:lebanon;lc:st._lucia;li:liechtenstein",
  "lk:sri_lanka;lr:liberia;ls:lesotho;lt:lithuania;lu:luxembourg;lv:latvia;ly:libya;ma:morocco",
  "mc:monaco;md:moldova;me:montenegro;mf:st._martin;mg:madagascar;mh:marshall_islands",
  "mk:macedonia;ml:mali;mn:mongolia;mp:northern_mariana_islands;mq:martinique;mr:mauritania",
  "ms:montserrat;mt:malta;mu:mauritius;mv:maldives;mw:malawi;mx:mexico;my:malaysia;mz:mozambique",
  "na:namibia;nc:new_caledonia;ne:niger;nf:norfolk_island;ng:nigeria;ni:nicaragua;nl:netherlands",
  "no:norway;np:nepal;nr:nauru;nu:niue;nz:new_zealand;om:oman;pa:panama;pe:peru",
  "pf:french_polynesia;pg:papua_new_guinea;ph:philippines;pk:pakistan;pl:poland",
  "pm:st._pierre_&_miquelon;pn:pitcairn_islands;pr:puerto_rico;ps:palestinian_territories",
  "pt:portugal;pw:palau;py:paraguay;qa:qatar;re:réunion;ro:romania;rs:serbia;ru:russia;rw:rwanda",
  "sa:saudi_arabia;sb:solomon_islands;sc:seychelles;sd:sudan;se:sweden;sg:singapore;sh:st._helena",
  "si:slovenia;sj:svalbard_&_jan_mayen;sk:slovakia;sl:sierra_leone;sm:san_marino;sn:senegal",
  "so:somalia;sr:suriname;ss:south_sudan;st:são_tomé_&_príncipe;sv:el_salvador;sx:sint_maarten",
  "sy:syria;sz:swaziland;ta:tristan_da_cunha;tc:turks_&_caicos_islands;td:chad",
  "tf:french_southern_territories;tg:togo;th:thailand;tj:tajikistan;tk:tokelau;tm:turkmenistan",
  "tn:tunisia;to:tonga;tt:trinidad_&_tobago;tv:tuvalu;tw:taiwan;tz:tanzania;ua:ukraine;ug:uganda",
  "um:u.s._outlying_islands;us:united_states;uy:uruguay;uz:uzbekistan;va:vatican_city",
  "vc:st._vincent_&_grenadines;ve:venezuela;vg:british_virgin_islands;vi:u.s._virgin_islands",
  "vn:vietnam;vu:vanuatu;wf:wallis_&_futuna;ws:samoa;xk:kosovo;ye:yemen;yt:mayotte",
  "za:south_africa;zm:zambia;zw:zimbabwe"]

/-- The codes of countries, each with the names of its flag, where one is not made of the other. -/
def furtherFlags : List (String × String) := [
  ("cc", "cocos_(keeling)_islands,flag_for_cocos__islands"),
  ("cd", "congo_-_kinshasa,flag_for_congo____kinshasa"),
  ("cg", "congo_-_brazzaville,flag_for_congo____brazzaville"),
  ("cz", "czechia,flag_for_czech_republic"),
  ("gw", "guinea-bissau,flag_for_guinea__bissau"),
  ("hk", "hong_kong_sar_china,flag_for_hong_kong"),
  ("jp", "flag_for_japan"),
  ("mm", "myanmar_(burma),flag_for_myanmar"),
  ("mo", "macau_sar_china,flag_for_macau"),
  ("tl", "timor-leste,flag_for_timor__leste"),
  ("tr", "flag_for_turkey"),
  ("un", "united_nations")]

end Emoji

end Decouple
